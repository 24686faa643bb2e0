import QueryTyping.Catalog.Basic
import QueryTyping.Encoding.Names
import QueryTyping.Encoding.Types

/-!
# Catalogs as documents

The form in which a catalog is defined. The names that tables, views, schemas and columns record
may be left out, and so may lists of columns, tables, views and references.
-/

namespace QueryTyping

variable {ν : Type}

namespace Column

/-- A column of a table as JSON. -/
def toJson (column : Column) : Json :=
  .object [("table_name", .string column.table), ("column_name", .string column.name),
    ("column_type", column.type.toJson), ("primary_key", .bool column.primaryKey)]

/-- Reads a column of a table. -/
def ofNode? [DataNode ν] (node : ν) : Option Column := do
  let fields ← Fields.ofNode? ["table_name", "column_name", "column_type", "primary_key"] node
  return {
    table := ← fields.withDefault "table_name" "" DataNode.text?
    name := ← fields.required "column_name" DataNode.text?
    type := ← fields.required "column_type" ColumnType.ofNode?
    primaryKey := ← fields.withDefault "primary_key" false DataNode.flag? }

end Column

namespace Table

/-- A table as JSON. -/
def toJson (table : Table) : Json :=
  .object [("table_name", .string table.name),
    ("columns", .array (table.columns.map Column.toJson))]

/-- Reads a table. -/
def ofNode? [DataNode ν] (node : ν) : Option Table := do
  let fields ← Fields.ofNode? ["table_name", "columns"] node
  return {
    name := ← fields.withDefault "table_name" "" DataNode.text?
    columns := ← fields.withDefault "columns" [] (DataNode.list? Column.ofNode?) }

end Table

namespace ViewColumn

/-- A column of a view as JSON. -/
def toJson (column : ViewColumn) : Json :=
  .object [("column_name", .string column.name), ("column_type", column.type.toJson)]

/-- Reads a column of a view. -/
def ofNode? [DataNode ν] (node : ν) : Option ViewColumn := do
  let fields ← Fields.ofNode? ["column_name", "column_type"] node
  return {
    name := ← fields.required "column_name" DataNode.text?
    type := ← fields.required "column_type" ColumnType.ofNode? }

end ViewColumn

namespace View

/-- A view as JSON. -/
def toJson (view : View) : Json :=
  .object [("view_name", .string view.name),
    ("columns", .array (view.columns.map ViewColumn.toJson)),
    ("references", .array (view.references.map ObjectName.toJson))]

/-- Reads a view. -/
def ofNode? [DataNode ν] (node : ν) : Option View := do
  let fields ← Fields.ofNode? ["view_name", "columns", "references"] node
  return {
    name := ← fields.withDefault "view_name" "" DataNode.text?
    columns := ← fields.withDefault "columns" [] (DataNode.list? ViewColumn.ofNode?)
    references := ← fields.withDefault "references" [] (DataNode.list? ObjectName.ofNode?) }

end View

namespace Schema

/-- A schema as JSON. -/
def toJson (schema : Schema) : Json :=
  .object [("schema_name", .string schema.name),
    ("tables", .ofDictionary Table.toJson schema.tables),
    ("views", .ofDictionary View.toJson schema.views)]

/-- Reads a schema. -/
def ofNode? [DataNode ν] (node : ν) : Option Schema := do
  let fields ← Fields.ofNode? ["schema_name", "tables", "views"] node
  return {
    name := ← fields.withDefault "schema_name" "" DataNode.text?
    tables := ← fields.withDefault "tables" .empty (DataNode.dictionary? Table.ofNode?)
    views := ← fields.withDefault "views" .empty (DataNode.dictionary? View.ofNode?) }

end Schema

namespace Catalog

/-- A catalog as JSON. -/
def toJson (catalog : Catalog) : Json :=
  .object [("default_schema", .string catalog.defaultSchema),
    ("schemas", .ofDictionary Schema.toJson catalog.schemas)]

/-- Reads a catalog. -/
def ofNode? [DataNode ν] (node : ν) : Option Catalog := do
  let fields ← Fields.ofNode? ["default_schema", "schemas"] node
  return {
    defaultSchema := ← fields.required "default_schema" DataNode.text?
    schemas := ← fields.withDefault "schemas" .empty (DataNode.dictionary? Schema.ofNode?) }

end Catalog

end QueryTyping
