import QueryTyping.Catalog.Basic
import QueryTyping.InferredType
import QueryTyping.Resolution

/-!
# Queries

The columns that a query yields, in order. A column may carry the name of the source it came from.
Looking up a column by its name fails when no column has it, and also when more than one has it.
-/

namespace QueryTyping

/-! ## Problems with names -/

/-- Why a name does not stand for one thing. -/
inductive NameFault where
  /-- No column has the name. -/
  | noColumn (name : String)
  /-- There is no FROM clause in which to look for the column. -/
  | noFromClause (name : ColumnName)
  /-- No source of the FROM clause has the name. -/
  | noSource (name : String)
  /-- No schema has the name. -/
  | noSchema (name : String)
  /-- The schema has no table or view of the name. -/
  | noObject (schema object : String)
  /-- More than one column has the name. -/
  | manyColumns (name : String)
  /-- Two columns of different sources have the name; they are given with their sources. -/
  | eitherColumn (name first second : String)
  /-- The sources of a FROM clause belong to no schema. -/
  | schemaOfSource (schema object : String)
  deriving DecidableEq

/-- The wording of a fault. -/
def NameFault.message : NameFault → String
  | noColumn name => "no such column: " ++ name
  | noFromClause name => "no such column: " ++ name.render ++ " (query has no FROM clause)"
  | noSource name => "no such table: " ++ name
  | noSchema name => "no such schema: " ++ name
  | noObject schema object => "no such table: " ++ schema ++ "." ++ object
  | manyColumns name => "ambiguous column name: " ++ name
  | eitherColumn name first second =>
    "ambiguous column name: " ++ name ++ " (could be " ++ first ++ " or " ++ second ++ ")"
  | schemaOfSource schema object =>
    "schema-qualified table reference " ++ schema ++ "." ++ object
      ++ " is not supported in column references; use a table alias instead"

/-- A fault, with names that may have been meant instead. -/
structure NameProblem where
  fault : NameFault
  suggestions : List String := []
  deriving DecidableEq

/-- The wording of a problem: the fault, then the suggestions, if there are any. -/
def NameProblem.message (problem : NameProblem) : String :=
  if problem.suggestions.isEmpty then problem.fault.message
  else
    problem.fault.message ++ " (did you mean: " ++ ", ".intercalate problem.suggestions ++ "?)"

instance : Worded NameProblem := ⟨NameProblem.message⟩

/-- The outcome of looking up a name in a query. -/
abbrev Lookup (α : Type) := Resolution NameProblem α

/-! ## Columns -/

/-- A column of a query. -/
structure QueryColumn where
  /-- The name of the source that the column came from. -/
  source : Option String := none
  name : String
  type : InferredType
  /-- Whether it is a column of the primary key of a table. -/
  primaryKey : Bool := false
  deriving DecidableEq

namespace QueryColumn

/-- The name of the column with its source, if it has one. -/
def qualifiedName (column : QueryColumn) : String :=
  match column.source with
  | some source => source ++ "." ++ column.name
  | none => column.name

/-- The column as one of a source. -/
def withSource (source : String) (column : QueryColumn) : QueryColumn :=
  { column with source := some source }

end QueryColumn

/-- The columns that a query yields, in order. -/
structure Query where
  columns : List QueryColumn := []
  deriving DecidableEq

namespace Query

instance : Inhabited Query := ⟨{}⟩

/-- The columns of a table, as columns of a source of its name. -/
def ofTable (table : Table) : Query where
  columns := table.columns.map fun column =>
    { source := some table.name, name := column.name, type := .column column.type,
      primaryKey := column.primaryKey }

/-- The columns of a view, as columns of a source of its name. A view has no primary key. -/
def ofView (view : View) : Query where
  columns := view.columns.map fun column =>
    { source := some view.name, name := column.name, type := .column column.type }

/-- The names of the columns, in order. -/
def names (query : Query) : List String := query.columns.map (·.name)

/-- The same columns, as columns of one source. -/
def withSource (source : String) (query : Query) : Query where
  columns := query.columns.map (QueryColumn.withSource source)

/-- The columns of two queries, one after the other. -/
def append (first second : Query) : Query := ⟨first.columns ++ second.columns⟩

/-- Gives the columns new names, of which there must be as many. -/
def rename (query : Query) (names : List String) : Except TypeError Query :=
  if names.length = query.columns.length then
    .ok ⟨query.columns.zipWith (fun column name => { column with name }) names⟩
  else .error (.arityMismatch query.columns.length names.length)

/-- Which of two columns of one name was meant cannot be told. If they came from different sources
both are named. -/
def clash (name : String) (first second : QueryColumn) : NameFault :=
  match first.source, second.source with
  | some a, some b =>
    if a = b then .manyColumns name
    else .eitherColumn name first.qualifiedName second.qualifiedName
  | _, _ => .manyColumns name

/-- The one column of a name. -/
def column (query : Query) (name : String) : Lookup QueryColumn :=
  match query.columns.filter (·.name == name) with
  | [] => .notFound ⟨.noColumn name, []⟩
  | [column] => .found column
  | first :: second :: _ => .ambiguous ⟨clash name first second, []⟩

end Query

end QueryTyping
