import QueryTyping.Query

/-!
# FROM clauses

A FROM clause names its sources. Its columns are those of all sources, in the order in which the
sources were added, each marked with its source; they are found by their own name or through the
name of a source.
-/

namespace QueryTyping

/-- The sources of a query. -/
structure FromClause where
  /-- The sources by name. -/
  sources : Dictionary Query := .empty
  /-- The columns of all sources, in the order in which the sources were added. -/
  wildcard : Query := {}
  deriving DecidableEq

namespace FromClause

instance : Inhabited FromClause := ⟨{}⟩

/-- Adds a source, whose name must be new. The clause that is left stands beside the answer, also
when the source is refused. -/
def addSource (clause : FromClause) (name : String) (query : Query) :
    Except TypeError Unit × FromClause :=
  if clause.sources.contains name then (.error (.duplicateSource name), clause)
  else
    let source := query.withSource name
    (.ok (), {
      sources := clause.sources.insert name source
      wildcard := clause.wildcard.append source })

/-- The columns of a source. -/
def source? (clause : FromClause) (name : String) : Option Query := clause.sources.get? name

/-- The source that a table name in a column name stands for. -/
def table (clause : FromClause) (name : ObjectName) : Lookup Query :=
  match name.schema with
  | some schema => .ambiguous ⟨.schemaOfSource schema name.object, []⟩
  | none =>
    match clause.source? name.object with
    | some query => .found query
    | none => .notFound ⟨.noSource name.object, []⟩

/-- The column that a column name stands for. -/
def column (clause : FromClause) (name : ColumnName) : Lookup QueryColumn :=
  match name.table with
  | none => clause.wildcard.column name.column
  | some table => (clause.table table).andThen (·.column name.column)

end FromClause

end QueryTyping
