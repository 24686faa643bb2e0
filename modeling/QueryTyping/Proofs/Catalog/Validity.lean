import QueryTyping.Catalog.Definition
import QueryTyping.Catalog.Source

/-!
# Valid catalogs

A check of a catalog passes exactly if the default schema exists and every reference of a view
names something, a reference without schema being looked for in the schema whose name the schema of
the view records (`Catalog.validate_eq_ok_iff`). All ways to load a catalog end in this check
(`Catalog.Accepted.validate`).
-/

namespace QueryTyping

theorem forM_eq_ok_iff {α ε : Type} {f : α → Except ε Unit} {xs : List α} :
    xs.forM f = .ok () ↔ ∀ x ∈ xs, f x = .ok () := by
  induction xs with
  | nil => simp [List.forM, pure, Except.pure]
  | cons x xs ih =>
    show (f x >>= fun _ => xs.forM f) = .ok () ↔ _
    rw [List.forall_mem_cons, ← ih]
    cases hx : f x with
    | error error => simp [bind, Except.bind]
    | ok value => simp [bind, Except.bind]

theorem exists_of_forM_eq_error {α ε : Type} {f : α → Except ε Unit} {xs : List α} {error : ε}
    (h : xs.forM f = .error error) : ∃ x ∈ xs, f x = .error error := by
  induction xs with
  | nil => cases h
  | cons x xs ih =>
    have h : (f x >>= fun _ => xs.forM f) = .error error := h
    cases hx : f x with
    | error error' =>
      rw [hx] at h
      exact ⟨x, List.mem_cons_self, hx.trans h⟩
    | ok value =>
      rw [hx] at h
      obtain ⟨y, hy, herror⟩ := ih h
      exact ⟨y, List.mem_cons_of_mem x hy, herror⟩

namespace Catalog

variable {catalog : Catalog}

theorem view?_eq_some_iff {home name : String} {view : View} :
    catalog.view? home name = some view ↔
      ∃ schema, catalog.schema? home = some schema ∧ schema.views.get? name = some view :=
  Option.bind_eq_some_iff

theorem checkReference_eq_ok_iff {home : String} {reference : ObjectName} :
    catalog.checkReference home reference = .ok () ↔
      (catalog.object? (reference.schema.getD home) reference.object).isSome := by
  unfold checkReference
  cases h : catalog.object? (reference.schema.getD home) reference.object <;> simp [h]

theorem mem_references_iff {entry : String × ObjectName} :
    entry ∈ catalog.references ↔
      ∃ home schema name view, catalog.schema? home = some schema ∧
        schema.views.get? name = some view ∧ entry.1 = schema.name ∧
          entry.2 ∈ view.references := by
  obtain ⟨recorded, reference⟩ := entry
  simp only [references, List.mem_flatMap, List.mem_map, Dictionary.values, Prod.exists,
    exists_eq_right, Dictionary.mem_entries_iff, Prod.mk.injEq]
  constructor
  · rintro ⟨schema, ⟨home, hschema⟩, view, ⟨name, hview⟩, _, hreference, rfl, rfl⟩
    exact ⟨home, schema, name, view, hschema, hview, rfl, hreference⟩
  · rintro ⟨home, schema, name, view, hschema, hview, rfl, hreference⟩
    exact ⟨schema, ⟨home, hschema⟩, view, ⟨name, hview⟩, _, hreference, rfl, rfl⟩

theorem validate_eq_ok_iff :
    catalog.validate = .ok () ↔
      (catalog.schema? catalog.defaultSchema).isSome ∧
        ∀ home schema name view, catalog.schema? home = some schema →
          schema.views.get? name = some view → ∀ reference ∈ view.references,
            (catalog.object? (reference.schema.getD schema.name) reference.object).isSome := by
  unfold validate
  split
  · next hdefault =>
    rw [forM_eq_ok_iff]
    simp only [checkReference_eq_ok_iff, hdefault, true_and]
    constructor
    · intro h home schema name view hschema hview reference hreference
      exact h (schema.name, reference)
        (mem_references_iff.mpr ⟨home, schema, name, view, hschema, hview, rfl, hreference⟩)
    · rintro h ⟨recorded, reference⟩ hentry
      obtain ⟨home, schema, name, view, hschema, hview, rfl, hreference⟩ :=
        mem_references_iff.mp hentry
      exact h home schema name view hschema hview reference hreference
  · next hdefault => simp [hdefault]

/-- Where the default schema exists, a check fails for want of a table or view. -/
theorem validate_ne_invalidSchema (hdefault : (catalog.schema? catalog.defaultSchema).isSome)
    (name : String) : catalog.validate ≠ .error (.invalidSchema name) := by
  unfold validate
  rw [if_pos hdefault]
  intro h
  obtain ⟨entry, -, hentry⟩ := exists_of_forM_eq_error h
  unfold checkReference at hentry
  dsimp only at hentry
  split at hentry
  · cases hentry
  · cases hentry

/-! ## Ways to load a catalog -/

/-- The catalog was checked by itself, read from a definition, or made a source. -/
inductive Accepted (catalog : Catalog) : Prop where
  | checked (h : catalog.validate = .ok ())
  | json {text : String} (h : ofJsonText text = .ok catalog)
  | yaml {text : String} (h : ofYamlText text = .ok catalog)
  | file {name : String} {content : FileContent} (h : ofFile name content = .ok catalog)
  | source {source : CatalogSource} (h : CatalogSource.ofCatalog catalog = .ok source)

/-- What loading yields was read, had its names filled in, and passed the check. -/
theorem exists_of_complete {read : Option Catalog} (h : complete read = .ok catalog) :
    ∃ definition, read = some definition ∧ catalog = definition.fillNames ∧
      catalog.validate = .ok () := by
  unfold complete at h
  cases read with
  | none => cases h
  | some definition =>
    cases hvalid : definition.fillNames.validate with
    | error error => simp [hvalid, bind, Except.bind] at h
    | ok value =>
      simp only [hvalid, bind, Except.bind, pure, Except.pure, Except.ok.injEq] at h
      subst h
      exact ⟨definition, rfl, rfl, hvalid⟩

theorem validate_of_complete {read : Option Catalog} (h : complete read = .ok catalog) :
    catalog.validate = .ok () := by
  obtain ⟨definition, -, -, hvalid⟩ := exists_of_complete h
  exact hvalid

theorem Accepted.validate (h : catalog.Accepted) : catalog.validate = .ok () := by
  cases h with
  | checked h => exact h
  | json h => exact validate_of_complete h
  | yaml h => exact validate_of_complete h
  | @file name content h =>
    unfold ofFile at h
    cases htext : content.text with
    | error reason => simp [htext] at h
    | ok text =>
      simp only [htext] at h
      split at h
      · exact validate_of_complete h
      · exact validate_of_complete h
  | source h =>
    unfold CatalogSource.ofCatalog at h
    cases hvalid : catalog.validate with
    | error error => simp [hvalid, bind, Except.bind] at h
    | ok value => rfl

end Catalog

end QueryTyping
