import QueryTyping.Catalog.Basic

/-!
# Filling in and checking a catalog

A definition may leave out the names that tables, views, schemas and columns record; they are
filled in from the names under which the things are stored. A catalog is valid if its default
schema exists and every reference of a view names a table or view that exists.
-/

namespace QueryTyping

/-- Why a catalog cannot be used. -/
inductive CatalogError where
  /-- A view reads something that a schema does not have. -/
  | tableNotFound (object schema : String)
  /-- A schema does not exist. -/
  | invalidSchema (name : String)
  /-- The text of a definition cannot be read. -/
  | serialization (detail : String)
  /-- The place of a definition cannot be read. -/
  | configuration (detail : String)
  deriving DecidableEq

/-- The wording of a catalog error. -/
def CatalogError.message : CatalogError → String
  | tableNotFound object schema => "Table '" ++ object ++ "' not found in schema '" ++ schema ++ "'"
  | invalidSchema name => "Invalid schema name: " ++ name
  | serialization detail => "Failed to serialize schema data: " ++ detail
  | configuration detail => "Invalid catalog configuration: " ++ detail

/-! ## Names that were left out -/

/-- A name, or another one in place of the empty name. -/
def fillName (name stored : String) : String := if name.isEmpty then stored else name

/-- Lets a column record the name of its table, if it records none. -/
def Column.fillNames (table : String) (column : Column) : Column :=
  { column with table := fillName column.table table }

/-- Lets a table record the name under which it is stored, and its columns the name that the table
then records. -/
def Table.fillNames (stored : String) (table : Table) : Table :=
  let name := fillName table.name stored
  { name, columns := table.columns.map (Column.fillNames name) }

/-- Lets a view record the name under which it is stored. -/
def View.fillNames (stored : String) (view : View) : View :=
  { view with name := fillName view.name stored }

/-- Lets a schema and all that is in it record the names under which they are stored. -/
def Schema.fillNames (stored : String) (schema : Schema) : Schema where
  name := fillName schema.name stored
  tables := schema.tables.mapEntries Table.fillNames
  views := schema.views.mapEntries View.fillNames

/-- Lets everything in a catalog record the name under which it is stored. -/
def Catalog.fillNames (catalog : Catalog) : Catalog :=
  { catalog with schemas := catalog.schemas.mapEntries Schema.fillNames }

/-! ## Validity -/

namespace Catalog

/-- Checks one reference of a view in a schema that records the name `home`. -/
def checkReference (catalog : Catalog) (home : String) (reference : ObjectName) :
    Except CatalogError Unit :=
  let schema := reference.schema.getD home
  match catalog.object? schema reference.object with
  | some _ => .ok ()
  | none => .error (.tableNotFound reference.object schema)

/-- All references of views, each with the name that the schema of the view records, in the order
of schemas, views and references. -/
def references (catalog : Catalog) : List (String × ObjectName) :=
  catalog.schemas.values.flatMap fun schema =>
    schema.views.values.flatMap fun view =>
      view.references.map fun reference => (schema.name, reference)

/-- Checks that the default schema exists and that every reference of a view names something. The
first fault counts. -/
def validate (catalog : Catalog) : Except CatalogError Unit :=
  if (catalog.schema? catalog.defaultSchema).isSome then
    catalog.references.forM fun entry => catalog.checkReference entry.1 entry.2
  else .error (.invalidSchema catalog.defaultSchema)

end Catalog

end QueryTyping
