import QueryTyping.Proofs.Scope.Columns
import QueryTyping.Proofs.Scope.Tables
import QueryTyping.Proofs.Text.Ranking

/-!
# Names that are suggested

What is suggested in place of a column that was not found are names that can be looked up instead:
the candidates are exactly the names that some level knows, if the table part is kept
(`Scope.mem_candidates_iff`). What is suggested in place of a table are names of the schema in which
it was looked for. So every suggestion can be used where it was made
(`Scope.suggestions_resolve`).
-/

namespace QueryTyping

/-! ## What is suggested -/

theorem dropRepeats_sublist (entries : List (Nat × String)) :
    (dropRepeats entries).Sublist entries := by
  induction entries with
  | nil => exact List.Sublist.refl []
  | cons entry rest ih =>
    exact ((List.dropWhile_sublist _).trans ih).cons_cons entry

/-- Only candidates are suggested. -/
theorem mem_of_mem_suggest {config : SuggestionConfig} {name suggestion : String}
    {candidates : List String} (h : suggestion ∈ suggest config name candidates) :
    suggestion ∈ candidates := by
  unfold suggest at h
  split at h
  · obtain ⟨entry, hentry, rfl⟩ := List.mem_map.mp h
    have hsorted := (dropRepeats_sublist _).mem (List.mem_of_mem_take hentry)
    have hscored := List.mem_of_mem_filter (List.mem_mergeSort.mp hsorted)
    obtain ⟨candidate, hcandidate, rfl⟩ := List.mem_map.mp hscored
    exact List.mem_of_mem_filter hcandidate
  · cases h

theorem suggest_of_disabled {config : SuggestionConfig} (h : config.enabled = false)
    (name : String) (candidates : List String) : suggest config name candidates = [] := by
  rw [suggest, h]
  rfl

/-! ## Columns -/

namespace Level

/-- A level knows the names that can be meant there, and no others. -/
theorem isNotFound_outcome_iff (level : Level) (name : ColumnName)
    (h : ∀ table, name.table = some table → table.schema = none) :
    (level.outcome name).isNotFound ↔ name.column ∉ level.columnNames name := by
  obtain ⟨table, column⟩ := name
  unfold outcome columnNames
  cases table with
  | none =>
    cases level.selectList with
    | none =>
      cases level.fromClause with
      | none => simp [Resolution.isNotFound]
      | some clause => simp [FromClause.column, Query.isNotFound_column_iff]
    | some list =>
      by_cases hlist : column ∈ list.names
      · simp [hlist, Option.filter_some, Query.isNotFound_column_iff]
      · cases level.fromClause with
        | none => simp [hlist, Option.filter_some, Resolution.isNotFound]
        | some clause =>
          simp [hlist, Option.filter_some, FromClause.column, Query.isNotFound_column_iff]
  | some table =>
    have hschema : table.schema = none := h table rfl
    cases level.fromClause with
    | none => simp [Resolution.isNotFound]
    | some clause =>
      cases hsource : clause.source? table.object with
      | none =>
        simp [FromClause.column, FromClause.table, hschema, hsource, Resolution.andThen,
          Resolution.isNotFound]
      | some query =>
        simp [FromClause.column, FromClause.table, hschema, hsource, Resolution.andThen,
          Query.isNotFound_column_iff]

theorem columnNames_of_no_from {level : Level} (h : level.fromClause = none) {name : ColumnName}
    {table : ObjectName} (htable : name.table = some table) : level.columnNames name = [] := by
  simp [columnNames, htable, h]

end Level

namespace Scope

/-- The names of columns that can be meant by a column name. -/
def candidates (scope : Scope) (name : ColumnName) : List String :=
  scope.levels.flatMap (·.columnNames name)

/-- The candidates for a name that was not found are the names that can be looked up instead. -/
theorem mem_candidates_iff (scope : Scope) {name : ColumnName}
    (h : (scope.column name).isNotFound) (column : String) :
    column ∈ scope.candidates name ↔ ¬(scope.column { name with column }).isNotFound := by
  by_cases hplain : ∀ table, name.table = some table → table.schema = none
  · have hlevel (level : Level) := level.isNotFound_outcome_iff { name with column } hplain
    rw [isNotFound_column_iff]
    simp only [hlevel, candidates, List.mem_flatMap, not_forall, not_not, exists_prop]
    rfl
  · -- a name with a schema is not found only where nothing is read
    obtain ⟨table, htable, hschema⟩ : ∃ table, name.table = some table ∧ table.schema ≠ none := by
      simpa using hplain
    obtain ⟨schema, hschema⟩ := Option.ne_none_iff_exists'.mp hschema
    have hnone (column : String) (level : Level) :
        (level.outcome { name with column }).isNotFound ↔ level.fromClause = none := by
      have htable : ({ name with column } : ColumnName).table = some table := htable
      exact (level.outcome_of_schema htable hschema).2
    have hfrom : ∀ level ∈ scope.levels, level.fromClause = none := fun level hmem =>
      (hnone name.column level).mp ((isNotFound_column_iff scope name).mp h level hmem)
    have hempty : column ∉ scope.candidates name := by
      intro hmem
      obtain ⟨level, hlevel, hcolumn⟩ := List.mem_flatMap.mp hmem
      rw [Level.columnNames_of_no_from (hfrom level hlevel) htable] at hcolumn
      cases hcolumn
    have hmissing : (scope.column { name with column }).isNotFound :=
      (isNotFound_column_iff scope _).mpr fun level hlevel =>
        (hnone column level).mpr (hfrom level hlevel)
    exact iff_of_false hempty (not_not_intro hmissing)

theorem suggestions_of_column_eq_notFound {scope : Scope} {name : ColumnName}
    {problem : NameProblem} (h : scope.column name = .notFound problem) :
    problem.suggestions = suggest scope.innermost.config name.column (scope.candidates name) := by
  unfold column at h
  cases hlevels : columnAtLevels name scope.innermost scope.enclosing with
  | found value => rw [hlevels] at h; cases h
  | ambiguous problem => rw [hlevels] at h; cases h
  | notFound fault =>
    rw [hlevels] at h
    cases h
    rfl

/-! ## Tables -/

variable {catalog : Catalog} {config config' : SuggestionConfig}
  {schema object suggestion : String} {problem : NameProblem}

/-- Names are suggested only for an object that a schema lacks, and then from its own objects. -/
theorem suggestions_of_schemaObject
    (h : (schemaObject catalog config schema object).1.problem? = some problem) :
    problem.suggestions = [] ∨ ∃ found, catalog.schema? schema = some found ∧
      problem.suggestions = suggest config object found.objectNames := by
  unfold schemaObject at h
  cases hschema : catalog.schema? schema with
  | none =>
    simp only [hschema] at h
    cases h
    exact Or.inl rfl
  | some found =>
    simp only [hschema] at h
    rcases hobject : found.object? object with _ | table | view
    · simp only [hobject] at h
      cases h
      exact Or.inr ⟨found, rfl, rfl⟩
    · simp only [hobject] at h
      cases h
    · simp only [hobject] at h
      cases h

/-- What is suggested in place of a table or view of a schema is one of that schema. -/
theorem isFound_schemaObject_of_suggested
    (h : (schemaObject catalog config schema object).1 = .notFound problem)
    (hsuggestion : suggestion ∈ problem.suggestions) :
    (schemaObject catalog config' schema suggestion).1.isFound := by
  have hproblem : (schemaObject catalog config schema object).1.problem? = some problem := by
    rw [h]
    rfl
  rcases suggestions_of_schemaObject hproblem with hnone | ⟨found, hschema, hsuggested⟩
  · rw [hnone] at hsuggestion
    cases hsuggestion
  rw [hsuggested] at hsuggestion
  have hname := Schema.mem_objectNames_iff.mp (mem_of_mem_suggest hsuggestion)
  unfold schemaObject
  simp only [hschema]
  rcases hstored : found.object? suggestion with _ | table | view
  · rw [hstored] at hname
    cases hname
  · rfl
  · rfl

theorem isFound_table_of_suggested {scope : Scope} {name : ObjectName}
    (h : (scope.table name).1 = .notFound problem)
    (hsuggestion : suggestion ∈ problem.suggestions) :
    (scope.table { name with object := suggestion }).1.isFound := by
  obtain ⟨schema, object⟩ := name
  cases schema with
  | some schema => exact isFound_schemaObject_of_suggested h hsuggestion
  | none =>
    rw [table_unqualified] at h ⊢
    cases hdeclared : scope.declared? object with
    | some query =>
      rw [hdeclared] at h
      cases h
    | none =>
      rw [hdeclared] at h
      -- a suggested name may be declared as well, and is found then, too
      cases scope.declared? suggestion with
      | some query => rfl
      | none => exact isFound_schemaObject_of_suggested h hsuggestion

/-- Whatever a scope suggests can be used there. A column that was not found can be replaced by
any of the suggested names without being missed again: these are the closest of all names that the
scope knows with the same table part. A table that was not found can be replaced by any of the
suggested names, and is found then. -/
theorem suggestions_resolve (scope : Scope) :
    (∀ name problem, scope.column name = .notFound problem →
      (∃ candidates,
        (∀ column, column ∈ candidates ↔ ¬(scope.column { name with column }).isNotFound) ∧
        problem.suggestions = suggest scope.innermost.config name.column candidates) ∧
      ∀ suggestion ∈ problem.suggestions,
        ¬(scope.column { name with column := suggestion }).isNotFound) ∧
    ∀ name problem, (scope.table name).1 = .notFound problem →
      ∀ suggestion ∈ problem.suggestions,
        (scope.table { name with object := suggestion }).1.isFound := by
  refine ⟨fun name problem h => ?columns, fun name problem h suggestion hsuggestion => ?tables⟩
  case columns =>
    have hmissing : (scope.column name).isNotFound := by rw [h]; rfl
    have hcandidates := scope.mem_candidates_iff hmissing
    have hsuggested := suggestions_of_column_eq_notFound h
    refine ⟨⟨scope.candidates name, hcandidates, hsuggested⟩, fun suggestion hsuggestion => ?_⟩
    rw [hsuggested] at hsuggestion
    exact (hcandidates suggestion).mp (mem_of_mem_suggest hsuggestion)
  case tables => exact isFound_table_of_suggested h hsuggestion

/-- A query that reads the column `email`, inside one whose SELECT list names two columns; the
nearest table is hidden by a common table expression. -/
theorem suggestions_resolve_in_nested :
    let column (name : String) : QueryColumn := { name, type := .column (.notNull .string) }
    let reading : Level :=
      { fromClause := some (FromClause.addSource {} "u" ⟨[column "email"]⟩).2 }
    let naming : Level :=
      { ctes := .ofList [("users", {})], selectList := some ⟨[column "emails", column "id"]⟩ }
    let scope : Scope :=
      { catalog := (Catalog.new "main").withTable { name := "users" }
        innermost := reading
        enclosing := [naming] }
    scope.column ⟨none, "emai"⟩ =
        .notFound ⟨.noFromClause ⟨none, "emai"⟩, ["email", "emails"]⟩ ∧
      (∀ suggestion ∈ ["email", "emails"], ¬(scope.column ⟨none, suggestion⟩).isNotFound) ∧
      scope.column ⟨some ⟨none, "u"⟩, "emai"⟩ =
        .notFound ⟨.noFromClause ⟨some ⟨none, "u"⟩, "emai"⟩, ["email"]⟩ ∧
      ¬(scope.column ⟨some ⟨none, "u"⟩, "email"⟩).isNotFound ∧
      (scope.table ⟨none, "usrs"⟩).1 = .notFound ⟨.noObject "main" "usrs", ["users"]⟩ ∧
      (scope.table ⟨none, "users"⟩).1.isFound := by
  intro column reading naming scope
  have henabled : scope.innermost.config.enabled = true := rfl
  have hranking : IsRanking "emai" (scope.candidates ⟨none, "emai"⟩) 2 ["email", "emails"] := by
    decide +kernel
  have hsuggested : scope.columnSuggestions ⟨none, "emai"⟩ = ["email", "emails"] :=
    IsRanking.suggest_eq henabled hranking
  have hplain : scope.column ⟨none, "emai"⟩ =
      .notFound ⟨.noFromClause ⟨none, "emai"⟩, ["email", "emails"]⟩ := by
    rw [Scope.column, hsuggested]
    decide +kernel
  have hqualified : scope.column ⟨some ⟨none, "u"⟩, "emai"⟩ =
      .notFound ⟨.noFromClause ⟨some ⟨none, "u"⟩, "emai"⟩, ["email"]⟩ := by decide +kernel
  have htable : (scope.table ⟨none, "usrs"⟩).1 =
      .notFound ⟨.noObject "main" "usrs", ["users"]⟩ := by decide +kernel
  obtain ⟨hcolumns, htables⟩ := suggestions_resolve scope
  refine ⟨hplain, (hcolumns _ _ hplain).2, hqualified, ?_, htable, ?_⟩
  · exact (hcolumns _ _ hqualified).2 "email" (List.mem_singleton_self _)
  · exact htables _ _ htable "users" (List.mem_singleton_self _)

end Scope

end QueryTyping
