/-!
# Names in a query

Names of tables and views, of columns, and of the parameters that a caller binds. A name has at
most one qualifier of its own kind: an object may name its schema, a column its table. Names are
compared exactly, letter case included.
-/

namespace QueryTyping

/-- The name of a table or view, with the schema it was looked for in, if one was written. -/
structure ObjectName where
  /-- The schema, if the name is qualified. -/
  schema : Option String := none
  /-- The table or view itself. -/
  object : String
  deriving DecidableEq

namespace ObjectName

/-- The name of an object in a given schema. -/
def qualified (schema object : String) : ObjectName := ⟨some schema, object⟩

/-- Whether the name says its schema. -/
def isQualified (name : ObjectName) : Bool := name.schema.isSome

/-- The name as it is written in a query: a point stands between schema and object. -/
def render (name : ObjectName) : String :=
  match name.schema with
  | some schema => schema ++ "." ++ name.object
  | none => name.object

/-- Unqualified names come first; then the order of the schemas decides, then that of the
objects. -/
def le (a b : ObjectName) : Bool :=
  match a.schema, b.schema with
  | none, none => a.object ≤ b.object
  | none, some _ => true
  | some _, none => false
  | some s, some t => s < t || (s == t && a.object ≤ b.object)

end ObjectName

/-- The name of a column, with the table it was looked for in, if one was written. -/
structure ColumnName where
  /-- The table, if the name is qualified. -/
  table : Option ObjectName := none
  /-- The column itself. -/
  column : String
  deriving DecidableEq

namespace ColumnName

/-- Whether the name says its table. -/
def isQualified (name : ColumnName) : Bool := name.table.isSome

/-- The name as it is written in a query: a point stands between table and column. -/
def render (name : ColumnName) : String :=
  match name.table with
  | some table => table.render ++ "." ++ name.column
  | none => name.column

end ColumnName

/-- A value that the caller of a query supplies, by position or by name. -/
inductive Parameter where
  /-- The parameter `?N`. -/
  | positional (index : UInt32)
  /-- A parameter with a name, its sigil included. -/
  | named (name : String)
  deriving DecidableEq

namespace Parameter

/-- The parameter as it is written in a query. -/
def render : Parameter → String
  | positional index => "?" ++ toString index.toNat
  | named name => name

/-- Positional parameters come first, by index; the named ones follow, by name. -/
def le : Parameter → Parameter → Bool
  | positional i, positional j => i ≤ j
  | positional _, named _ => true
  | named _, positional _ => false
  | named a, named b => a ≤ b

end Parameter

end QueryTyping
