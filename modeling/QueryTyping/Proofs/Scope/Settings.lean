import QueryTyping.Proofs.Scope.Suggestions

/-!
# Whose settings decide on suggestions

Each level of a scope has settings for suggestions. Columns, and tables that are named with a
schema, are looked up with the settings of the innermost level, whatever those of the levels around
it are. A table that is named without schema is left to the levels around, and in the end to the
outermost one, which makes suggestions with settings of its own.

So scopes that differ only in the settings of the levels around the innermost one give the same
answers, up to what is suggested in place of a table without schema
(`Scope.enclosing_settings_matter_iff`). There they may differ, and a scope may suggest a name
although its own settings say not to (`Scope.suggested_against_settings`).
-/

namespace QueryTyping

/-! ## Answers without suggestions -/

/-- A column that is not one of a query is missed without suggestions. -/
theorem Query.suggestions_column {query : Query} {name : String} {problem : NameProblem}
    (h : (query.column name).problem? = some problem) : problem.suggestions = [] := by
  unfold Query.column at h
  split at h
  · cases h; rfl
  · cases h
  · cases h; rfl

theorem FromClause.suggestions_column {clause : FromClause} {name : ColumnName}
    {problem : NameProblem} (h : (clause.column name).problem? = some problem) :
    problem.suggestions = [] := by
  unfold FromClause.column FromClause.table at h
  cases htable : name.table with
  | none =>
    simp only [htable] at h
    exact Query.suggestions_column h
  | some table =>
    simp only [htable] at h
    cases hschema : table.schema with
    | some schema =>
      simp only [hschema] at h
      cases h
      rfl
    | none =>
      simp only [hschema] at h
      cases hsource : clause.source? table.object with
      | none =>
        simp only [hsource] at h
        cases h
        rfl
      | some query =>
        simp only [hsource] at h
        exact Query.suggestions_column h

namespace Level

theorem suggestions_outcome {level : Level} {name : ColumnName} {problem : NameProblem}
    (h : (level.outcome name).problem? = some problem) : problem.suggestions = [] := by
  unfold outcome at h
  split at h
  · exact Query.suggestions_column h
  · split at h
    · exact FromClause.suggestions_column h
    · cases h; rfl

/-! ## Levels that differ in their settings -/

/-- What a level has besides its settings for suggestions. -/
def content (level : Level) : Dictionary Query × Option FromClause × Option Query :=
  (level.ctes, level.fromClause, level.selectList)

/-- What is read off the content of levels is the same where the contents are. -/
theorem map_eq_of_content {α : Type} {f : Level → α} {levels levels' : List Level}
    (hf : ∀ level level', level'.content = level.content → f level' = f level)
    (h : levels'.map content = levels.map content) : levels'.map f = levels.map f := by
  induction levels generalizing levels' with
  | nil =>
    obtain rfl := List.map_eq_nil_iff.mp h
    rfl
  | cons level levels ih =>
    cases levels' with
    | nil => cases h
    | cons level' levels' =>
      obtain ⟨hlevel, hlevels⟩ := List.cons.inj h
      rw [List.map_cons, List.map_cons, hf level level' hlevel, ih hlevels]

end Level

namespace Scope

variable {scope other : Scope} {name : ColumnName} {problem : NameProblem}

theorem suggestions_columnAtLevels {level : Level} {enclosing : List Level}
    (h : (columnAtLevels name level enclosing).problem? = some problem) :
    problem.suggestions = [] := by
  induction enclosing generalizing level with
  | nil =>
    rw [columnAtLevels, Level.column_eq_outcome] at h
    exact Level.suggestions_outcome h
  | cons next enclosing ih =>
    rw [columnAtLevels_cons] at h
    by_cases hknown : (level.outcome name).isNotFound
    · rw [Resolution.orElse_of_isNotFound hknown] at h
      exact ih h
    · rw [Resolution.orElse_of_known hknown] at h
      exact Level.suggestions_outcome h

/-- The scopes differ at most in the settings of the levels around the innermost one. -/
structure SameUpToEnclosingSettings (scope other : Scope) : Prop where
  catalog : other.catalog = scope.catalog
  content : other.levels.map Level.content = scope.levels.map Level.content
  config : other.innermost.config = scope.innermost.config

namespace SameUpToEnclosingSettings

variable (h : SameUpToEnclosingSettings scope other)
include h

theorem candidates_eq (name : ColumnName) : other.candidates name = scope.candidates name := by
  unfold candidates
  rw [List.flatMap_def, List.flatMap_def, Level.map_eq_of_content ?_ h.content]
  intro level level' hcontent
  obtain ⟨-, hfrom, hselect⟩ := Prod.mk.inj hcontent |>.imp_right Prod.mk.inj
  unfold Level.columnNames
  rw [hfrom, hselect]

theorem column_eq (name : ColumnName) : other.column name = scope.column name := by
  have hclauses : other.levels.map Level.clauses = scope.levels.map Level.clauses := by
    refine Level.map_eq_of_content (fun level level' hcontent => ?_) h.content
    obtain ⟨-, hfrom, hselect⟩ := Prod.mk.inj hcontent |>.imp_right Prod.mk.inj
    unfold Level.clauses
    rw [hfrom, hselect]
  have hsuggestions : other.columnSuggestions name = scope.columnSuggestions name := by
    show suggest _ _ (other.candidates name) = suggest _ _ (scope.candidates name)
    rw [h.config, h.candidates_eq]
  unfold column
  rw [columnAtLevels_congr hclauses, hsuggestions]

theorem declared?_eq (object : String) : other.declared? object = scope.declared? object := by
  have hdeclared : ∀ levels : List Level, levels.findSome? (·.ctes.get? object) =
      (levels.map (·.ctes.get? object)).findSome? id := by
    intro levels
    rw [List.findSome?_map]
    rfl
  unfold declared?
  rw [hdeclared, hdeclared, Level.map_eq_of_content ?_ h.content]
  intro level level' hcontent
  rw [(Prod.mk.inj hcontent).1]

end SameUpToEnclosingSettings

/-! ## Tables -/

/-- The settings play a part only where nothing is found in a schema that there is. -/
theorem schemaObject_eq_iff {catalog : Catalog} {config config' : SuggestionConfig}
    {schema object : String} :
    schemaObject catalog config' schema object = schemaObject catalog config schema object ↔
      ∀ found, catalog.schema? schema = some found → found.object? object = none →
        suggest config' object found.objectNames = suggest config object found.objectNames := by
  unfold schemaObject
  cases catalog.schema? schema with
  | none => simp
  | some found => rcases hobject : found.object? object with _ | table | view <;> simp [hobject]

theorem suggestions_schemaObject {catalog : Catalog} {config : SuggestionConfig}
    (hdisabled : config.enabled = false) {schema object : String}
    (h : (schemaObject catalog config schema object).1.problem? = some problem) :
    problem.suggestions = [] := by
  rcases suggestions_of_schemaObject h with hnone | ⟨found, -, hsuggested⟩
  · exact hnone
  · rw [hsuggested]
    exact suggest_of_disabled hdisabled object found.objectNames

/-- The settings of the levels around the innermost one play no part in looking up columns and
tables with a schema, and none is suggested there if the innermost level says so. For a table
without schema the settings of the outermost level decide: answers in two scopes differ exactly
where no level declares the name, the default schema has no such object, and the outermost levels
suggest different names for it. -/
theorem enclosing_settings_matter_iff (h : SameUpToEnclosingSettings scope other) :
    (∀ name, other.column name = scope.column name) ∧
    (∀ schema object, other.table ⟨some schema, object⟩ = scope.table ⟨some schema, object⟩) ∧
    (∀ object, other.table ⟨none, object⟩ = scope.table ⟨none, object⟩ ↔
      (scope.declared? object = none →
        ∀ found, scope.catalog.schema? scope.catalog.defaultSchema = some found →
          found.object? object = none →
            suggest other.outermost.config object found.objectNames =
              suggest scope.outermost.config object found.objectNames)) ∧
    (scope.innermost.config.enabled = false →
      (∀ name problem, (scope.column name).problem? = some problem →
        problem.suggestions = []) ∧
      ∀ schema object problem, (scope.table ⟨some schema, object⟩).1.problem? = some problem →
        problem.suggestions = []) ∧
    (scope.outermost.config.enabled = false →
      ∀ object problem, (scope.table ⟨none, object⟩).1.problem? = some problem →
        problem.suggestions = []) := by
  refine ⟨h.column_eq, ?qualified, ?unqualified, fun hdisabled => ⟨?columns, ?tables⟩, ?outermost⟩
  case qualified =>
    intro schema object
    show schemaObject other.catalog other.innermost.config schema object = _
    rw [h.catalog, h.config]
    rfl
  case unqualified =>
    intro object
    rw [table_unqualified, table_unqualified, h.declared?_eq, h.catalog]
    cases scope.declared? object with
    | some query => simp
    | none => simpa using schemaObject_eq_iff
  case columns =>
    intro name problem hproblem
    unfold column at hproblem
    cases hlevels : columnAtLevels name scope.innermost scope.enclosing with
    | found value => rw [hlevels] at hproblem; cases hproblem
    | notFound fault =>
      rw [hlevels] at hproblem
      cases hproblem
      exact suggest_of_disabled hdisabled _ _
    | ambiguous fault =>
      rw [hlevels] at hproblem
      have hfault : (columnAtLevels name scope.innermost scope.enclosing).problem? =
          some problem := by
        rw [hlevels]
        exact hproblem
      exact suggestions_columnAtLevels hfault
  case tables =>
    intro schema object problem hproblem
    exact suggestions_schemaObject hdisabled hproblem
  case outermost =>
    intro hdisabled object problem hproblem
    rw [table_unqualified] at hproblem
    cases hdeclared : scope.declared? object with
    | some query =>
      rw [hdeclared] at hproblem
      cases hproblem
    | none =>
      rw [hdeclared] at hproblem
      exact suggestions_schemaObject hdisabled hproblem

/-- A query without suggestions inside one that suggests near names, or else distant names. -/
theorem enclosing_settings_matter_iff_in_nested :
    let catalog := (Catalog.new "main").withTable { name := "users" }
    let scope := (root catalog).child.withConfig { enabled := false }
    let other := ((root catalog).withConfig { maxDistance := 9 }).child.withConfig
      { enabled := false }
    SameUpToEnclosingSettings scope other ∧
      (∀ name, other.column name = scope.column name) ∧
      other.table ⟨some "main", "gone"⟩ = scope.table ⟨some "main", "gone"⟩ ∧
      other.table ⟨none, "usrs"⟩ = scope.table ⟨none, "usrs"⟩ ∧
      other.table ⟨none, "gone"⟩ ≠ scope.table ⟨none, "gone"⟩ := by
  intro catalog scope other
  have hsame : SameUpToEnclosingSettings scope other := ⟨rfl, rfl, rfl⟩
  obtain ⟨hcolumn, hqualified, hunqualified, -⟩ := enclosing_settings_matter_iff hsame
  have hmain : catalog.schema? "main" = some (({ name := "main" } : Schema).withTable
      { name := "users" }) := by decide +kernel
  refine ⟨hsame, hcolumn, hqualified "main" "gone", ?_, ?_⟩
  · rw [hunqualified "usrs"]
    intro _ found hfound _
    obtain rfl := Option.some.inj (hmain.symm.trans hfound)
    decide +kernel
  · rw [ne_eq, hunqualified "gone"]
    intro hsuggest
    have hgone := hsuggest (by decide +kernel) _ hmain (by decide +kernel)
    have hnear : suggest scope.outermost.config "gone" (({ name := "main" } : Schema).withTable
        { name := "users" }).objectNames = [] := by decide +kernel
    have hdistant : suggest other.outermost.config "gone" (({ name := "main" } : Schema).withTable
        { name := "users" }).objectNames = ["users"] := by decide +kernel
    rw [hnear, hdistant] at hgone
    cases hgone

/-- Two queries whose own settings say to suggest nothing, inside a query that suggests names and
inside one that does not: the first one suggests a table. -/
theorem suggested_against_settings :
    let catalog := (Catalog.new "main").withTable { name := "users" }
    let scope := (root catalog).child.withConfig { enabled := false }
    let other := ((root catalog).withConfig { enabled := false }).child.withConfig
      { enabled := false }
    let problem : NameProblem := ⟨.noObject "main" "usrs", ["users"]⟩
    let problem' : NameProblem := ⟨.noObject "main" "usrs", []⟩
    SameUpToEnclosingSettings scope other ∧ scope.innermost.config.enabled = false ∧
      scope.table ⟨none, "usrs"⟩ = (.notFound problem, []) ∧
      problem.message = "no such table: main.usrs (did you mean: users?)" ∧
      other.table ⟨none, "usrs"⟩ = (.notFound problem', []) ∧
      problem'.message = "no such table: main.usrs" := by
  intro catalog scope other problem problem'
  exact ⟨⟨rfl, rfl, rfl⟩, rfl, by decide +kernel, by decide, by decide +kernel, by decide⟩

end Scope

end QueryTyping
