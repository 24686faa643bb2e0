import QueryTyping.Scope.Basic

/-!
# Looking up columns

At each level a column name is looked for among the names of the SELECT list, if it has no table,
and then in the FROM clause. A name that a level does not know is left to the level around it; a
name that is ambiguous at a level is ambiguous, whatever stands around it. If no level knows the
name, names of columns that could be seen are suggested.
-/

namespace QueryTyping

namespace Level

/-- What the FROM clause of a level knows of a column name. -/
def columnInFrom (level : Level) (name : ColumnName) : Lookup QueryColumn :=
  match level.fromClause with
  | some clause => clause.column name
  | none => .notFound ⟨.noFromClause name, []⟩

/-- What the SELECT list of a level knows of a column name: nothing, if the name has a table. -/
def columnInSelect (level : Level) (name : ColumnName) : Option (Lookup QueryColumn) :=
  match name.table, level.selectList with
  | none, some list => some (list.column name.column)
  | _, _ => none

/-- What a level knows of a column name. -/
def column (level : Level) (name : ColumnName) : Lookup QueryColumn :=
  match level.columnInSelect name with
  | some outcome => outcome.orElse fun _ => level.columnInFrom name
  | none => level.columnInFrom name

/-- The names of columns that could have been meant by a column name at a level. -/
def columnNames (level : Level) (name : ColumnName) : List String :=
  match name.table with
  | none =>
    let selected := (level.selectList.map Query.names).getD []
    let read := (level.fromClause.map (·.wildcard.names)).getD []
    selected ++ read
  | some table =>
    ((level.fromClause.bind (·.source? table.object)).map Query.names).getD []

end Level

namespace Scope

/-- What the given levels know of a column name. -/
def columnAtLevels (name : ColumnName) (level : Level) (enclosing : List Level) :
    Lookup QueryColumn :=
  match enclosing with
  | [] => level.column name
  | outer :: rest => (level.column name).orElse fun _ => columnAtLevels name outer rest

/-- The names that are suggested for a column name that no level knows. -/
def columnSuggestions (scope : Scope) (name : ColumnName) : List String :=
  suggest scope.innermost.config name.column (scope.levels.flatMap (·.columnNames name))

/-- What a column name stands for. -/
def column (scope : Scope) (name : ColumnName) : Lookup QueryColumn :=
  (columnAtLevels name scope.innermost scope.enclosing).mapNotFound fun problem =>
    { problem with suggestions := scope.columnSuggestions name }

end Scope

end QueryTyping
