import QueryTyping.Scope.Basic

/-!
# Looking up tables

A table name without schema stands for the common table expression of the innermost level that
declares it, and otherwise for a table or view of the default schema. A name with schema always
stands for a table or view of that schema.

A look-up also yields the base tables that its answer depends on. For a view these are found by a
walk over the references of views (`Catalog.baseTables`). The walk keeps the names that are still
to be read, the nearest first, and the names of the catalog that it has not met yet; it skips a
name that it has met, so that it reads every view once and ends even if views read one another.
-/

namespace QueryTyping

/-- The place of a table or view in a catalog. -/
structure ObjectKey where
  schema : String
  name : String
  deriving DecidableEq

/-- The places other than a given one. -/
def ObjectKey.without (key : ObjectKey) (keys : List ObjectKey) : List ObjectKey :=
  keys.filter (· ≠ key)

theorem ObjectKey.length_without_lt {key : ObjectKey} {keys : List ObjectKey} (h : key ∈ keys) :
    (key.without keys).length < keys.length :=
  List.length_filter_lt_length_iff_exists.2 ⟨key, h, by simp⟩

/-- A table that a look-up depends on, with its place in the catalog. -/
structure BaseTable where
  key : ObjectKey
  table : Table
  deriving DecidableEq

namespace Catalog

/-- The places of all tables and views. -/
def objectKeys (catalog : Catalog) : List ObjectKey :=
  catalog.schemas.entries.flatMap fun entry => entry.2.objectNames.map (⟨entry.1, ·⟩)

/-- The place that a reference names, for a view in the schema `home`. -/
def referenceKey (home : String) (reference : ObjectName) : ObjectKey :=
  ⟨reference.schema.getD home, reference.object⟩

/-- The places that a view in the schema `home` reads. -/
def viewReads (home : String) (view : View) : List ObjectKey :=
  view.references.map (referenceKey home)

/-- The tables that the places `pending` come down to, in the order in which they are met. `unmet`
holds the places that were not met before. -/
def baseTablesFrom (catalog : Catalog) (unmet pending : List ObjectKey) : List BaseTable :=
  match pending with
  | [] => []
  | key :: rest =>
    if _h : key ∈ unmet then
      let left := key.without unmet
      match catalog.object? key.schema key.name with
      | some (.table table) => ⟨key, table⟩ :: catalog.baseTablesFrom left rest
      | some (.view view) => catalog.baseTablesFrom left (viewReads key.schema view ++ rest)
      | none => catalog.baseTablesFrom left rest
    else catalog.baseTablesFrom unmet rest
termination_by (unmet.length, pending.length)
decreasing_by
  · exact Prod.Lex.left _ _ (ObjectKey.length_without_lt _h)
  · exact Prod.Lex.left _ _ (ObjectKey.length_without_lt _h)
  · exact Prod.Lex.left _ _ (ObjectKey.length_without_lt _h)
  · exact Prod.Lex.right _ (Nat.lt_succ_self _)

/-- The tables that a view of the schema `home` reads, directly or through other views. -/
def baseTables (catalog : Catalog) (home : String) (view : View) : List BaseTable :=
  let viewKey : ObjectKey := ⟨home, view.name⟩
  catalog.baseTablesFrom (viewKey.without catalog.objectKeys) (viewReads home view)

end Catalog

namespace Scope

/-- A table or view of a schema, with suggestions as `config` says if there is none. -/
def schemaObject (catalog : Catalog) (config : SuggestionConfig) (schema object : String) :
    Lookup Query × List BaseTable :=
  match catalog.schema? schema with
  | none => (.notFound ⟨.noSchema schema, []⟩, [])
  | some found =>
    match found.object? object with
    | some (.table table) => (.found (.ofTable table), [⟨⟨schema, object⟩, table⟩])
    | some (.view view) => (.found (.ofView view), catalog.baseTables schema view)
    | none =>
      (.notFound ⟨.noObject schema object, suggest config object found.objectNames⟩, [])

/-- What a name without schema stands for at the given levels. A level that does not declare the
name leaves it to the level around it; the outermost one looks into the default schema, with
its own settings for suggestions. -/
def unqualifiedTable (catalog : Catalog) (level : Level) (enclosing : List Level)
    (object : String) : Lookup Query × List BaseTable :=
  match level.ctes.get? object with
  | some query => (.found query, [])
  | none =>
    match enclosing with
    | [] => schemaObject catalog level.config catalog.defaultSchema object
    | outer :: rest => unqualifiedTable catalog outer rest object

/-- What a table name stands for, and the base tables that this depends on. -/
def table (scope : Scope) (name : ObjectName) : Lookup Query × List BaseTable :=
  match name.schema with
  | some schema => schemaObject scope.catalog scope.innermost.config schema name.object
  | none => unqualifiedTable scope.catalog scope.innermost scope.enclosing name.object

end Scope

end QueryTyping
