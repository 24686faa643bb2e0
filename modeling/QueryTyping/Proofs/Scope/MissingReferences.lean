import QueryTyping.Proofs.Catalog.Validity
import QueryTyping.Proofs.Scope.Dependencies

/-!
# References that name nothing

A check of a catalog looks for a reference without schema in the schema whose name the schema of
the view records. A look-up of the view goes by the name under which that schema is stored. Where
the two names are the same, a catalog that passed the check has no reference that a look-up misses.
Where they differ it may: `Scope.missing_references_iff` says exactly when, and
`Scope.reference_missing_after_check` is such a catalog.
-/

namespace QueryTyping

namespace Catalog

variable {catalog : Catalog} {home schema : String} {view inner : View} {place : ObjectKey}

/-- The walk of a view of the schema `home` goes through the references of a view, which belongs to
the schema that comes with it. It never goes to the place that the first view records as its own. -/
inductive Opens (catalog : Catalog) (home : String) (view : View) : String → View → Prop where
  | self : Opens catalog home view home view
  | next {schema : String} {outer inner : View} {key : ObjectKey}
      (h : Opens catalog home view schema outer) (hread : key ∈ viewReads schema outer)
      (hnew : key ≠ ⟨home, view.name⟩) (hview : catalog.ViewAt key inner) :
      Opens catalog home view key.schema inner

/-- The places that are met from a view are those that the opened views read. -/
theorem met_iff_opens :
    catalog.Met [⟨home, view.name⟩] (viewReads home view) place ↔
      place ≠ ⟨home, view.name⟩ ∧
        ∃ schema inner, catalog.Opens home view schema inner ∧ place ∈ viewReads schema inner := by
  constructor
  · intro hmet
    induction hmet with
    | start h hnew => exact ⟨by simpa using hnew, home, view, .self, h⟩
    | step _ hreads hnew ih =>
      obtain ⟨hne, schema, outer, hopens, hread⟩ := ih
      obtain ⟨inner, hview, hnext⟩ := hreads.exists_view
      exact ⟨by simpa using hnew, _, inner, .next hopens hread hne hview, hnext⟩
  · rintro ⟨hne, schema, inner, hopens, hread⟩
    induction hopens generalizing place with
    | self => exact .start hread (by simpa using hne)
    | next _ hread' hnew hview ih =>
      exact .step (ih hnew hread') ((reads_iff hview).mpr hread) (by simpa using hne)

theorem Opens.exists_name {name : String} (hview : catalog.view? home name = some view)
    (h : catalog.Opens home view schema inner) : ∃ name, catalog.view? schema name = some inner := by
  cases h with
  | self => exact ⟨name, hview⟩
  | next _ _ _ hview => exact ⟨_, hview.2⟩

/-- In a valid catalog a reference of a stored view is missing only if it says no schema and the
schema of the view records another name than its own. -/
theorem unqualified_of_missing (hvalid : catalog.validate = .ok ()) {name : String}
    (hview : catalog.view? schema name = some inner) (hread : place ∈ viewReads schema inner)
    (hmissing : catalog.object? place.schema place.name = none) :
    place.schema = schema ∧ ⟨none, place.name⟩ ∈ inner.references ∧
      ∀ found, catalog.schema? schema = some found → found.name ≠ schema := by
  obtain ⟨found, hschema, hstored⟩ := view?_eq_some_iff.mp hview
  have hnamed := (validate_eq_ok_iff.mp hvalid).2 schema found name inner hschema hstored
  rcases mem_viewReads_iff.mp hread with ⟨hhome, h⟩ | h
  · refine ⟨hhome, h, fun found' hschema' hrecorded => ?_⟩
    obtain rfl := Option.some.inj (hschema.symm.trans hschema')
    have hsome := hnamed _ h
    simp only [Option.getD_none, hrecorded, ← hhome, hmissing] at hsome
    cases hsome
  · have hsome := hnamed _ h
    simp only [Option.getD_some, hmissing] at hsome
    cases hsome

/-- Wherever the walk of a view opens a view in a schema that records another name than its own,
this schema has what the references without schema name. -/
def SuppliesReferences (catalog : Catalog) (schema : String) (view : View) : Prop :=
  ∀ home inner found object, catalog.Opens schema view home inner →
    catalog.schema? home = some found → found.name ≠ home → ⟨none, object⟩ ∈ inner.references →
    (⟨home, object⟩ : ObjectKey) ≠ ⟨schema, view.name⟩ → (catalog.object? home object).isSome

theorem Walked.missing_eq_nil_iff {walk : Walk} (hwalk : catalog.Walked schema view walk)
    (hvalid : catalog.validate = .ok ()) {name : String}
    (hview : catalog.view? schema name = some view) :
    walk.missing = [] ↔ catalog.SuppliesReferences schema view := by
  rw [List.eq_nil_iff_forall_not_mem]
  constructor
  · intro h home inner found object hopens _ _ hreference hne
    have hread : (⟨home, object⟩ : ObjectKey) ∈ viewReads home inner :=
      mem_viewReads_iff.mpr (Or.inl ⟨rfl, hreference⟩)
    have hmet := met_iff_opens.mpr ⟨hne, home, inner, hopens, hread⟩
    rw [Option.isSome_iff_ne_none]
    exact fun hnone => h _ ((hwalk.mem_missing _).mpr ⟨hmet, hnone⟩)
  · intro h place hplace
    obtain ⟨hmet, hnone⟩ := (hwalk.mem_missing place).mp hplace
    obtain ⟨hne, home, inner, hopens, hread⟩ := met_iff_opens.mp hmet
    obtain ⟨stored, hstored⟩ := hopens.exists_name hview
    obtain ⟨found, hschema, -⟩ := view?_eq_some_iff.mp hstored
    obtain ⟨rfl, hreference, hrecorded⟩ := unqualified_of_missing hvalid hstored hread hnone
    have hsome := h _ inner found _ hopens hschema (hrecorded found hschema) hreference hne
    rw [hnone] at hsome
    cases hsome

end Catalog

namespace Scope

/-- In a catalog that was accepted, the walk of a stored view comes upon nothing but tables and
views exactly if the schemas that record another name than their own supply its references. This
holds of every view if all schemas record their own names. -/
theorem missing_references_iff (scope : Scope) (haccepted : scope.catalog.Accepted)
    {schema name : String} {view : View} (hview : scope.catalog.view? schema name = some view) :
    ∃ walk, Ends (scope.catalog.viewLoop schema view) walk ∧
      (scope.catalog.table? schema name = none →
        scope.table ⟨some schema, name⟩ = (.found (.ofView view), walk.touched)) ∧
      (walk.missing = [] ↔ scope.catalog.SuppliesReferences schema view) ∧
      ((∀ home found, scope.catalog.schema? home = some found → found.name = home) →
        walk.missing = []) := by
  obtain ⟨walk, hwalk⟩ := scope.catalog.exists_walked schema view
  have hmissing := hwalk.missing_eq_nil_iff haccepted.validate hview
  refine ⟨walk, hwalk.ends, fun htable => ?_, hmissing, fun hrecorded => hmissing.mpr ?_⟩
  · exact scope.table_of_walked ⟨htable, hview⟩ hwalk
  · intro home inner found object _ hschema hne
    exact absurd (hrecorded home found hschema) hne

/-- A schema that is stored as `main` and records the name `other`; both schemas have the table that
the view reads. -/
theorem missing_references_iff_of_both :
    let view : View := { name := "v", references := [⟨none, "t"⟩] }
    let catalog : Catalog :=
      { defaultSchema := "main"
        schemas := .ofList [
          ("main", (({ name := "other" } : Schema).withTable { name := "t" }).withView view),
          ("other", ({ name := "other" } : Schema).withTable { name := "t" })] }
    catalog.Accepted ∧ catalog.view? "main" "v" = some view ∧
      ∃ walk, Ends (catalog.viewLoop "main" view) walk ∧ walk.missing = [] := by
  intro view catalog
  have haccepted : catalog.Accepted := .checked (by decide +kernel)
  have hview : catalog.view? "main" "v" = some view := by decide +kernel
  obtain ⟨walk, hends, -, hmissing, -⟩ :=
    missing_references_iff (Scope.root catalog) haccepted hview
  -- the one reference of the view leads to a table, so no other view is opened
  have hopened : ∀ home inner, catalog.Opens "main" view home inner →
      home = "main" ∧ inner = view := by
    intro home inner hopens
    induction hopens with
    | self => exact ⟨rfl, rfl⟩
    | @next schema outer inner key _ hread _ hat ih =>
      rw [ih.1, ih.2] at hread
      obtain rfl : key = ⟨"main", "t"⟩ := List.mem_singleton.mp hread
      have htable : catalog.table? "main" "t" = some { name := "t" } := by decide +kernel
      exact absurd (htable.symm.trans hat.1) (by simp)
  refine ⟨haccepted, hview, walk, hends, hmissing.mpr ?_⟩
  intro home inner found object hopens _ _ hreference _
  obtain ⟨rfl, rfl⟩ := hopened home inner hopens
  obtain rfl : object = "t" := by simpa [view] using hreference
  decide +kernel

/-- A definition that is accepted although its view reads a table that the schema of the view lacks:
the check looks for the table in the schema `other`, whose name the schema `main` records. -/
theorem reference_missing_after_check :
    let definition : Json := .object [
      ("default_schema", .string "main"),
      ("schemas", .object [
        ("main", .object [
          ("schema_name", .string "other"),
          ("views", .object [
            ("v", .object [("references", .array [.object [("object_name", .string "t")]])])])]),
        ("other", .object [("tables", .object [("t", .object [])])])])]
    let view : View := { name := "v", references := [⟨none, "t"⟩] }
    ∃ catalog, Catalog.ofJson definition = .ok catalog ∧ catalog.validate = .ok () ∧
      catalog.view? "main" "v" = some view ∧
      (Scope.root catalog).table ⟨some "main", "v"⟩ = (.found (.ofView view), []) ∧
      Ends (catalog.viewLoop "main" view)
        { visited := [⟨"main", "t"⟩, ⟨"main", "v"⟩], missing := [⟨"main", "t"⟩] } := by
  intro definition view
  let catalog : Catalog :=
    { defaultSchema := "main"
      schemas := .ofList [
        ("main", ({ name := "other" } : Schema).withView view),
        ("other", ({ name := "other" } : Schema).withTable { name := "t" })] }
  have hnone : catalog.table? "main" "v" = none := by decide +kernel
  have hview : catalog.view? "main" "v" = some view := by decide +kernel
  have hmissing : catalog.object? "main" "t" = none := by decide +kernel
  have hwalked : catalog.Walked "main" view
      { visited := [⟨"main", "t"⟩, ⟨"main", "v"⟩], missing := [⟨"main", "t"⟩] } :=
    Catalog.Walks.walked (.missing (by decide) hmissing (.done _))
  exact ⟨catalog, by decide +kernel, by decide +kernel, hview,
    (Scope.root catalog).table_of_walked ⟨hnone, hview⟩ hwalked, hwalked.ends⟩

end Scope

end QueryTyping
