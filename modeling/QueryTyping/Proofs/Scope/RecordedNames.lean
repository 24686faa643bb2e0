import QueryTyping.Proofs.Catalog.Validity
import QueryTyping.Proofs.Catalog.ViewNames
import QueryTyping.Proofs.Scope.Dependencies
import QueryTyping.Proofs.Scope.Tables

/-!
# Looking up tables where views record other names

Two catalogs may differ only in the names that their views record. Every table name then stands for
the same thing in both, up to the name of the source that the columns are marked with. The same
tables are touched, unless the name stands for a view and the place that this view records as its
own is one that its references lead to (`Scope.view_names_matter_iff`). Then a table that the view
reads may be left out: `Scope.table_missed_by_recorded_name`.
-/

namespace QueryTyping

/-! ## Answers up to the names of sources -/

/-- The columns of a view, without source, do not depend on the name that it records. -/
theorem Query.withSource_ofView (source : String) (view : View) :
    (ofView view.withoutName).withSource source = (ofView view).withSource source := by
  unfold Query.withSource ofView
  rw [List.map_map, List.map_map]
  rfl

namespace Scope

variable {scope other : Scope}

theorem answer_withoutViewNames (catalog : Catalog) (config : SuggestionConfig)
    (schema object : String) :
    (schemaObject catalog.withoutViewNames config schema object).1.map (·.withSource "") =
      (schemaObject catalog config schema object).1.map (·.withSource "") := by
  unfold schemaObject
  rw [Catalog.schema?_withoutViewNames]
  cases catalog.schema? schema with
  | none => rfl
  | some found =>
    simp only [Option.map_some, Schema.object?_withoutViewNames,
      Schema.objectNames_withoutViewNames]
    rcases found.object? object with _ | table | view
    · rfl
    · rfl
    · exact congrArg Resolution.found (Query.withSource_ofView "" view)

theorem touched_withoutViewNames {catalog : Catalog} {schema object : String}
    (h : ∀ view, ¬catalog.ViewAt ⟨schema, object⟩ view) (config : SuggestionConfig) :
    (schemaObject catalog.withoutViewNames config schema object).2 =
      (schemaObject catalog config schema object).2 := by
  unfold schemaObject
  rw [Catalog.schema?_withoutViewNames]
  cases hschema : catalog.schema? schema with
  | none => rfl
  | some found =>
    simp only [Option.map_some, Schema.object?_withoutViewNames]
    rcases hobject : found.object? object with _ | table | view
    · rfl
    · rfl
    · refine absurd (Catalog.object?_eq_view_iff.mp ?_) (h view)
      rw [Catalog.object?, hschema]
      exact hobject

/-- The place in the catalog that a table name stands for, unless a level declares the name. -/
def place? (scope : Scope) (name : ObjectName) : Option ObjectKey :=
  match name.schema with
  | some schema => some ⟨schema, name.object⟩
  | none =>
    match scope.declared? name.object with
    | some _ => none
    | none => some ⟨scope.catalog.defaultSchema, name.object⟩

/-- The scopes differ at most in the names that the views of their catalogs record. -/
structure SameUpToViewNames (scope other : Scope) : Prop where
  catalog : other.catalog.withoutViewNames = scope.catalog.withoutViewNames
  levels : other.levels = scope.levels

/-- A name is declared in both scopes, or is looked for at one place in both. -/
theorem SameUpToViewNames.table_cases (h : SameUpToViewNames scope other) (name : ObjectName) :
    (scope.place? name = none ∧ other.table name = scope.table name) ∨
    ∃ place config, scope.place? name = some place ∧
      scope.table name = schemaObject scope.catalog config place.schema place.name ∧
      other.table name = schemaObject other.catalog config place.schema place.name := by
  obtain ⟨hinnermost, henclosing⟩ := List.cons.inj h.levels
  have hdefault := Catalog.defaultSchema_eq_of_same h.catalog
  obtain ⟨schema, object⟩ := name
  cases schema with
  | some schema =>
    refine Or.inr ⟨⟨schema, object⟩, scope.innermost.config, rfl, rfl, ?_⟩
    rw [← hinnermost]
    rfl
  | none =>
    have hdeclared : other.declared? object = scope.declared? object := by
      unfold declared?
      rw [h.levels]
    have houtermost : other.outermost = scope.outermost := by
      unfold outermost
      rw [hinnermost, henclosing]
    rw [table_unqualified, table_unqualified, hdeclared, houtermost, hdefault]
    unfold place?
    cases scope.declared? object with
    | some query => exact Or.inl ⟨rfl, rfl⟩
    | none => exact Or.inr ⟨⟨_, object⟩, _, rfl, rfl, rfl⟩

/-- The touched tables of a view, in both scopes, in terms of the one catalog. -/
theorem SameUpToViewNames.exists_view (h : SameUpToViewNames scope other) {name : ObjectName}
    {place : ObjectKey} {view : View} (hplace : scope.place? name = some place)
    (hview : scope.catalog.ViewAt place view) :
    ∃ view', other.catalog.ViewAt place view' ∧
      (scope.table name).2 = scope.catalog.baseTables place.schema view ∧
      (other.table name).2 =
        scope.catalog.baseTables place.schema { view with name := view'.name } := by
  obtain ⟨view', hview'⟩ := Catalog.exists_viewAt_of_same h.catalog hview
  have hnames := Catalog.withoutName_eq_of_same h.catalog hview hview'
  obtain ⟨hnone, -⟩ | ⟨key, config, hkey, htable, htable'⟩ := h.table_cases name
  · rw [hnone] at hplace
    cases hplace
  obtain rfl := Option.some.inj (hkey.symm.trans hplace)
  refine ⟨view', hview', ?_, ?_⟩
  · rw [htable]
    exact congrArg Prod.snd (schemaObject_of_viewAt hview config)
  · rw [htable', ← Catalog.baseTables_of_same h.catalog key.schema hnames]
    exact congrArg Prod.snd (schemaObject_of_viewAt hview' config)

/-- Scopes whose views record different names find the same under every table name, up to the name
of its source. They touch the same tables unless the name stands for a view. For a view only the
name that it records itself plays a part, by the place in its schema that it counts as its own: past
this place references are not followed. Unless they lead to a view at such a place, the touched
tables differ exactly if the names do and a table stands at one of these places that the references
lead to. -/
theorem view_names_matter_iff (h : SameUpToViewNames scope other) (name : ObjectName) :
    (other.table name).1.map (·.withSource "") = (scope.table name).1.map (·.withSource "") ∧
    ((∀ place view, scope.place? name = some place → ¬scope.catalog.ViewAt place view) →
      (other.table name).2 = (scope.table name).2) ∧
    ∀ place view, scope.place? name = some place → scope.catalog.ViewAt place view →
      ∃ view', other.catalog.ViewAt place view' ∧
        let own : ObjectKey := ⟨place.schema, view.name⟩
        let own' : ObjectKey := ⟨place.schema, view'.name⟩
        let leads := fun past => scope.catalog.Met past (Catalog.viewReads place.schema view)
        (own' = own → (other.table name).2 = (scope.table name).2) ∧
        ((∀ base, base ∈ (other.table name).2 ↔ base ∈ (scope.table name).2) ↔
          ∀ key table, scope.catalog.table? key.schema key.name = some table →
            (leads [own'] key ↔ leads [own] key)) ∧
        ((∀ key ∈ [own, own'], leads [] key → ∀ inner, ¬scope.catalog.ViewAt key inner) →
          ((other.table name).2 = (scope.table name).2 ↔
            own' = own ∨ ∀ key ∈ [own, own'], leads [] key →
              scope.catalog.table? key.schema key.name = none)) := by
  refine ⟨?answer, ?tables, ?views⟩
  case answer =>
    obtain ⟨-, heq⟩ | ⟨place, config, -, htable, htable'⟩ := h.table_cases name
    · rw [heq]
    · rw [htable, htable', ← answer_withoutViewNames, h.catalog, answer_withoutViewNames]
  case tables =>
    intro hnone
    obtain ⟨-, heq⟩ | ⟨place, config, hplace, htable, htable'⟩ := h.table_cases name
    · rw [heq]
    · have hnone' : ∀ view', ¬other.catalog.ViewAt place view' := by
        intro view' hview'
        obtain ⟨view, hview⟩ := Catalog.exists_viewAt_of_same h.catalog.symm hview'
        exact hnone place view hplace hview
      rw [htable, htable', ← touched_withoutViewNames hnone', h.catalog,
        touched_withoutViewNames (hnone place · hplace)]
  case views =>
    intro place view hplace hview
    obtain ⟨view', hview', htouched, htouched'⟩ := h.exists_view hplace hview
    refine ⟨view', hview', ?_⟩
    rw [htouched, htouched']
    refine ⟨fun hown => ?_, ?_, Catalog.baseTables_eq_iff⟩
    · obtain ⟨-, hname⟩ := ObjectKey.mk.inj hown
      rw [hname]
    · constructor
      · intro hmem key table htable
        have hkey := hmem ⟨key, table⟩
        rw [Catalog.mem_baseTables_iff, Catalog.mem_baseTables_iff] at hkey
        exact and_congr_left_iff.mp hkey htable
      · rintro hleads ⟨key, table⟩
        rw [Catalog.mem_baseTables_iff, Catalog.mem_baseTables_iff]
        exact and_congr_left (hleads key table)

/-- A view that reads two tables. It does not matter which of two names it records that nothing
bears, but it matters if it records the name of one of the tables. -/
theorem view_names_matter_iff_of_two_tables :
    let view (recorded : String) : View :=
      { name := recorded, references := [⟨none, "t"⟩, ⟨none, "u"⟩] }
    let scope (recorded : String) : Scope := root
      { defaultSchema := "main"
        schemas := .ofList [("main",
          { name := "main"
            tables := .ofList [("t", { name := "t" }), ("u", { name := "u" })]
            views := .ofList [("v", view recorded)] })] }
    (SameUpToViewNames (scope "x") (scope "y") ∧
      ((scope "y").table ⟨none, "v"⟩).2 = ((scope "x").table ⟨none, "v"⟩).2) ∧
    (SameUpToViewNames (scope "x") (scope "u") ∧
      ((scope "u").table ⟨none, "v"⟩).2 ≠ ((scope "x").table ⟨none, "v"⟩).2) := by
  intro view scope
  have hplace : (scope "x").place? ⟨none, "v"⟩ = some ⟨"main", "v"⟩ := by decide +kernel
  have hview : ∀ recorded, (scope recorded).catalog.ViewAt ⟨"main", "v"⟩ (view recorded) :=
    fun _ => ⟨rfl, rfl⟩
  have hsame : ∀ recorded, SameUpToViewNames (scope "x") (scope recorded) :=
    fun _ => ⟨rfl, rfl⟩
  -- nothing but the view `v` itself is a view, so the places of these names are none
  have hiff : ∀ recorded, (scope "x").catalog.view? "main" recorded = none →
      (((scope recorded).table ⟨none, "v"⟩).2 = ((scope "x").table ⟨none, "v"⟩).2 ↔
        (⟨"main", recorded⟩ : ObjectKey) = ⟨"main", "x"⟩ ∨
          ∀ key ∈ [(⟨"main", "x"⟩ : ObjectKey), ⟨"main", recorded⟩],
            (scope "x").catalog.Met [] (Catalog.viewReads "main" (view "x")) key →
              (scope "x").catalog.table? key.schema key.name = none) := by
    intro recorded hrecorded
    obtain ⟨view', hview', -, -, hlists⟩ :=
      (view_names_matter_iff (hsame recorded) ⟨none, "v"⟩).2.2 _ _ hplace (hview "x")
    obtain rfl := Option.some.inj (hview'.2.symm.trans (hview recorded).2)
    refine hlists ?_
    intro key hkey _ inner hinner
    rcases List.mem_pair.mp hkey with rfl | rfl
    · have hx : (scope "x").catalog.view? "main" "x" = none := by decide +kernel
      exact absurd (hx.symm.trans hinner.2) (by simp)
    · exact absurd (hrecorded.symm.trans hinner.2) (by simp)
  refine ⟨⟨hsame "y", (hiff "y" (by decide +kernel)).mpr (Or.inr ?_)⟩, hsame "u", fun heq => ?_⟩
  · intro key hkey _
    rcases List.mem_pair.mp hkey with rfl | rfl
    · decide +kernel
    · decide +kernel
  · rcases (hiff "u" (by decide +kernel)).mp heq with hnames | hnone
    · simp at hnames
    · have hu := hnone ⟨"main", "u"⟩ (by simp) (.start (by decide) (by simp))
      have htable : (scope "x").catalog.table? "main" "u" = some { name := "u" } := rfl
      cases htable.symm.trans hu

/-- Two definitions that are accepted and differ only in the name that a view records: the one that
records the name of the table that it reads touches no table. -/
theorem table_missed_by_recorded_name :
    let definition (recorded : String) : Json := .object [
      ("default_schema", .string "main"),
      ("schemas", .object [
        ("main", .object [
          ("tables", .object [("t", .object [])]),
          ("views", .object [
            ("v", .object [
              ("view_name", .string recorded),
              ("references", .array [.object [("object_name", .string "t")]])])])])])]
    ∃ catalog catalog', Catalog.ofJson (definition "v") = .ok catalog ∧
      Catalog.ofJson (definition "t") = .ok catalog' ∧
      catalog.validate = .ok () ∧ catalog'.validate = .ok () ∧
      SameUpToViewNames (root catalog) (root catalog') ∧
      (root catalog).table ⟨some "main", "v"⟩ = (.found {}, [⟨⟨"main", "t"⟩, { name := "t" }⟩]) ∧
      (root catalog').table ⟨some "main", "v"⟩ = (.found {}, []) := by
  intro definition
  let view (recorded : String) : View := { name := recorded, references := [⟨none, "t"⟩] }
  let catalog (recorded : String) : Catalog :=
    { defaultSchema := "main"
      schemas := .ofList [("main",
        { name := "main"
          tables := .ofList [("t", { name := "t" })]
          views := .ofList [("v", view recorded)] })] }
  have ht : (catalog "v").object? "main" "t" = some (.table { name := "t" }) := by decide +kernel
  have hat : (catalog "v").ViewAt ⟨"main", "v"⟩ (view "v") :=
    ⟨by decide +kernel, by decide +kernel⟩
  have hat' : (catalog "t").ViewAt ⟨"main", "v"⟩ (view "t") :=
    ⟨by decide +kernel, by decide +kernel⟩
  have hwalked : (catalog "v").Walked "main" (view "v")
      { visited := [⟨"main", "t"⟩, ⟨"main", "v"⟩]
        touched := [⟨⟨"main", "t"⟩, { name := "t" }⟩] } :=
    Catalog.Walks.walked (.table (by decide) ht (.done _))
  -- the table counts as visited from the start, since the view bears its name
  have hwalked' : (catalog "t").Walked "main" (view "t") { visited := [⟨"main", "t"⟩] } :=
    Catalog.Walks.walked (.again (by decide) (.done _))
  exact ⟨catalog "v", catalog "t", by decide +kernel, by decide +kernel, by decide +kernel,
    by decide +kernel, ⟨by decide +kernel, rfl⟩, (root _).table_of_walked hat hwalked,
    (root _).table_of_walked hat' hwalked'⟩

end Scope

end QueryTyping
