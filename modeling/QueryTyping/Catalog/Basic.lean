import QueryTyping.ColumnType
import QueryTyping.Dictionary
import QueryTyping.Name

/-!
# Catalogs

A catalog describes what a query can read: schemas, and in each schema tables and views. Schemas,
tables and views are found by the name under which they are stored; each also records a name of
its own. The builders (`withTable`, `withView`, …) store a thing under its own name, so that the
two agree; a definition that is read from a text may give them apart.
-/

namespace QueryTyping

/-- A column of a table. -/
structure Column where
  /-- The table it belongs to, as the column records it. -/
  table : String := ""
  name : String
  type : ColumnType
  /-- Whether it belongs to the primary key. -/
  primaryKey : Bool := false
  deriving DecidableEq

/-- A table with its columns in order. -/
structure Table where
  /-- The name that the table records. -/
  name : String := ""
  columns : List Column := []
  deriving DecidableEq

namespace Table

/-- Adds a column at the end. -/
def withColumn (table : Table) (name : String) (type : ColumnType) : Table :=
  { table with columns := table.columns ++ [{ table := table.name, name, type }] }

/-- Adds a column of the primary key at the end. -/
def withPrimaryKey (table : Table) (name : String) (type : ColumnType) : Table :=
  { table with
    columns := table.columns ++ [{ table := table.name, name, type, primaryKey := true }] }

/-- The first column of a name. -/
def column? (table : Table) (name : String) : Option Column :=
  table.columns.find? (·.name == name)

/-- The columns of the primary key, in order. -/
def primaryKey (table : Table) : List Column := table.columns.filter (·.primaryKey)

end Table

/-- A column of a view. -/
structure ViewColumn where
  name : String
  type : ColumnType
  deriving DecidableEq

/-- A view with its columns in order and the tables and views that it reads. -/
structure View where
  /-- The name that the view records. -/
  name : String := ""
  columns : List ViewColumn := []
  /-- What the view reads; a name without schema belongs to the schema of the view. -/
  references : List ObjectName := []
  deriving DecidableEq

namespace View

/-- Adds a column at the end. -/
def withColumn (view : View) (name : String) (type : ColumnType) : View :=
  { view with columns := view.columns ++ [⟨name, type⟩] }

/-- Adds a table or view that the view reads. -/
def withReference (view : View) (name : ObjectName) : View :=
  { view with references := view.references ++ [name] }

end View

/-- A schema: tables and views by name. -/
structure Schema where
  /-- The name that the schema records. -/
  name : String := ""
  tables : Dictionary Table := .empty
  views : Dictionary View := .empty
  deriving DecidableEq

/-- What a name in a schema stands for. -/
inductive SchemaObject where
  | table (table : Table)
  | view (view : View)
  deriving DecidableEq

namespace Schema

/-- Stores a table under its own name. -/
def withTable (schema : Schema) (table : Table) : Schema :=
  { schema with tables := schema.tables.insert table.name table }

/-- Stores a view under its own name. -/
def withView (schema : Schema) (view : View) : Schema :=
  { schema with views := schema.views.insert view.name view }

/-- The table or view of a name; a table hides a view. -/
def object? (schema : Schema) (name : String) : Option SchemaObject :=
  match schema.tables.get? name with
  | some table => some (.table table)
  | none => (schema.views.get? name).map .view

/-- The names of all tables, then of all views. -/
def objectNames (schema : Schema) : List String := schema.tables.names ++ schema.views.names

end Schema

/-- The schemas that a query can read. -/
structure Catalog where
  /-- The schema of names that say none. -/
  defaultSchema : String
  schemas : Dictionary Schema := .empty
  deriving DecidableEq

namespace Catalog

/-- The catalog of one schema without tables, which is the default one. -/
def new (name : String) : Catalog where
  defaultSchema := name
  schemas := Dictionary.empty.insert name { name }

/-- Stores a schema under its own name. -/
def withSchema (catalog : Catalog) (schema : Schema) : Catalog :=
  { catalog with schemas := catalog.schemas.insert schema.name schema }

/-- The schema of a name. -/
def schema? (catalog : Catalog) (name : String) : Option Schema := catalog.schemas.get? name

/-- Changes the default schema, which is made if it is missing. -/
def modifyDefault (catalog : Catalog) (f : Schema → Schema) : Catalog :=
  let schema := (catalog.schema? catalog.defaultSchema).getD { name := catalog.defaultSchema }
  { catalog with schemas := catalog.schemas.insert catalog.defaultSchema (f schema) }

/-- Stores a table in the default schema. -/
def withTable (catalog : Catalog) (table : Table) : Catalog :=
  catalog.modifyDefault (·.withTable table)

/-- Stores a view in the default schema. -/
def withView (catalog : Catalog) (view : View) : Catalog :=
  catalog.modifyDefault (·.withView view)

/-- The table or view of a name in a schema. -/
def object? (catalog : Catalog) (schema name : String) : Option SchemaObject :=
  (catalog.schema? schema).bind (·.object? name)

/-- The table of a name in a schema. -/
def table? (catalog : Catalog) (schema name : String) : Option Table :=
  (catalog.schema? schema).bind (·.tables.get? name)

/-- The view of a name in a schema. -/
def view? (catalog : Catalog) (schema name : String) : Option View :=
  (catalog.schema? schema).bind (·.views.get? name)

end Catalog

end QueryTyping
