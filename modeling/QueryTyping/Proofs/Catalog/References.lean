import Mathlib.Logic.Relation
import QueryTyping.Scope.Tables

/-!
# What views read

The references of views make a graph on the places of a catalog. At a place stands a table, if one
is stored there; otherwise a view, if one is stored there; otherwise nothing. Only a view leads on,
to the places that its references name (`Catalog.Reads`).

`Catalog.Met visited pending` holds the places that are come upon from the places `pending` without
passing through one of `visited`. Main statements:

* `met_cons` — a new place is met, and then what its view reads takes its turn before the rest
* `met_append` — meeting the places of two lists is meeting those of the first, then the others
* `met_viewReads_iff` — from what a view reads one meets all that the view leads to but itself
-/

namespace QueryTyping

theorem Schema.mem_objectNames_iff {schema : Schema} {name : String} :
    name ∈ schema.objectNames ↔ (schema.object? name).isSome := by
  simp only [Schema.objectNames, List.mem_append, Dictionary.mem_names_iff, Schema.object?]
  cases schema.tables.get? name with
  | none => simp [Option.isSome_iff_exists]
  | some table => simp

namespace Catalog

open Relation

variable {catalog : Catalog} {key next place : ObjectKey} {view : View} {table : Table}
  {visited visited' pending pending' rest : List ObjectKey}

/-! ## What stands at a place -/

/-- A view is stored at the place and no table hides it. -/
def ViewAt (catalog : Catalog) (key : ObjectKey) (view : View) : Prop :=
  catalog.table? key.schema key.name = none ∧ catalog.view? key.schema key.name = some view

theorem object?_eq_table_iff :
    catalog.object? key.schema key.name = some (.table table) ↔
      catalog.table? key.schema key.name = some table := by
  unfold object? table?
  cases catalog.schema? key.schema with
  | none => simp
  | some schema => cases h : schema.tables.get? key.name <;> simp [Schema.object?, h]

theorem object?_eq_view_iff :
    catalog.object? key.schema key.name = some (.view view) ↔ catalog.ViewAt key view := by
  unfold ViewAt object? table? view?
  cases catalog.schema? key.schema with
  | none => simp
  | some schema => cases h : schema.tables.get? key.name <;> simp [Schema.object?, h]

theorem object?_eq_none_iff (catalog : Catalog) (schema object : String) :
    catalog.object? schema object = none ↔
      catalog.table? schema object = none ∧ catalog.view? schema object = none := by
  unfold object? table? view?
  cases catalog.schema? schema with
  | none => simp
  | some found => cases h : found.tables.get? object <;> simp [Schema.object?, h]

/-- The places of a catalog are those where something stands. -/
theorem mem_objectKeys_iff :
    key ∈ catalog.objectKeys ↔ (catalog.object? key.schema key.name).isSome := by
  obtain ⟨schema, name⟩ := key
  simp only [objectKeys, List.mem_flatMap, List.mem_map, ObjectKey.mk.injEq, Prod.exists, object?]
  constructor
  · rintro ⟨stored, found, hentry, object, hobject, rfl, rfl⟩
    rw [schema?, Dictionary.get?_of_mem_entries hentry]
    exact Schema.mem_objectNames_iff.mp hobject
  · intro h
    cases hschema : catalog.schema? schema with
    | none => simp [hschema] at h
    | some found =>
      rw [hschema] at h
      exact ⟨schema, found, Dictionary.mem_entries_of_get? hschema, name,
        Schema.mem_objectNames_iff.mpr h, rfl, rfl⟩

/-! ## What a place leads to -/

/-- The view at a place names another place. -/
inductive Reads (catalog : Catalog) : ObjectKey → ObjectKey → Prop where
  /-- A reference without schema belongs to the schema of the view. -/
  | unqualified {key : ObjectKey} {view : View} {object : String}
      (hview : catalog.ViewAt key view) (h : ⟨none, object⟩ ∈ view.references) :
      Reads catalog key ⟨key.schema, object⟩
  /-- A reference with a schema belongs to that schema. -/
  | qualified {key : ObjectKey} {view : View} {schema object : String}
      (hview : catalog.ViewAt key view) (h : ⟨some schema, object⟩ ∈ view.references) :
      Reads catalog key ⟨schema, object⟩

theorem mem_viewReads_iff {home : String} :
    next ∈ viewReads home view ↔
      (next.schema = home ∧ ⟨none, next.name⟩ ∈ view.references) ∨
        ⟨some next.schema, next.name⟩ ∈ view.references := by
  obtain ⟨schema, name⟩ := next
  simp only [viewReads, referenceKey, List.mem_map, ObjectKey.mk.injEq]
  constructor
  · rintro ⟨⟨stated, object⟩, h, hschema, rfl⟩
    cases stated with
    | none => exact Or.inl ⟨hschema.symm, h⟩
    | some stated =>
      obtain rfl : stated = schema := hschema
      exact Or.inr h
  · rintro (⟨hschema, h⟩ | h)
    · exact ⟨_, h, hschema.symm, rfl⟩
    · exact ⟨_, h, rfl, rfl⟩

theorem Reads.exists_view (h : catalog.Reads key next) :
    ∃ view, catalog.ViewAt key view ∧ next ∈ viewReads key.schema view := by
  cases h with
  | unqualified hview h => exact ⟨_, hview, mem_viewReads_iff.mpr (Or.inl ⟨rfl, h⟩)⟩
  | qualified hview h => exact ⟨_, hview, mem_viewReads_iff.mpr (Or.inr h)⟩

theorem reads_iff (hview : catalog.ViewAt key view) :
    catalog.Reads key next ↔ next ∈ viewReads key.schema view := by
  constructor
  · intro h
    obtain ⟨view', hview', hnext⟩ := h.exists_view
    obtain rfl := Option.some.inj (hview.2.symm.trans hview'.2)
    exact hnext
  · obtain ⟨schema, name⟩ := next
    rw [mem_viewReads_iff]
    rintro (⟨hschema, h⟩ | h)
    · obtain rfl : schema = key.schema := hschema
      exact .unqualified hview h
    · exact .qualified hview h

/-! ## Places that are met -/

/-- The place is one of `pending` or read from such a place, and neither it nor what lies between
is one of `visited`. -/
inductive Met (catalog : Catalog) (visited pending : List ObjectKey) : ObjectKey → Prop where
  | start {key : ObjectKey} (h : key ∈ pending) (hnew : key ∉ visited) :
      Met catalog visited pending key
  | step {key next : ObjectKey} (h : Met catalog visited pending key)
      (hreads : catalog.Reads key next) (hnew : next ∉ visited) : Met catalog visited pending next

theorem Met.not_mem (h : catalog.Met visited pending key) : key ∉ visited := by
  cases h with
  | start _ hnew => exact hnew
  | step _ _ hnew => exact hnew

theorem Met.mono (h : catalog.Met visited pending key) (hvisited : ∀ place ∈ visited', place ∈ visited)
    (hpending : ∀ place ∈ pending, place ∈ pending') : catalog.Met visited' pending' key := by
  induction h with
  | start h hnew => exact .start (hpending _ h) fun hmem => hnew (hvisited _ hmem)
  | step _ hreads hnew ih => exact .step ih hreads fun hmem => hnew (hvisited _ hmem)

@[simp] theorem not_met_nil : ¬catalog.Met visited [] key := by
  intro h
  induction h with
  | start h _ => simp at h
  | step _ _ _ ih => exact ih

/-- A place that was visited before adds nothing. -/
theorem met_cons_of_mem (h : key ∈ visited) :
    catalog.Met visited (key :: rest) place ↔ catalog.Met visited rest place := by
  constructor
  · intro hmet
    induction hmet with
    | start hmem hnew =>
      rcases List.mem_cons.mp hmem with rfl | hmem
      · exact absurd h hnew
      · exact .start hmem hnew
    | step _ hreads hnew ih => exact .step ih hreads hnew
  · intro hmet
    exact hmet.mono (fun _ h => h) fun _ h => List.mem_cons_of_mem _ h

/-- What is met from a new place: itself, and what is met from its reads once it is visited. -/
theorem met_cons (h : key ∉ visited) (reads : List ObjectKey)
    (hreads : ∀ next, next ∈ reads ↔ catalog.Reads key next) :
    catalog.Met visited (key :: rest) place ↔
      place = key ∨ catalog.Met (key :: visited) (reads ++ rest) place := by
  have hweaker : ∀ place ∈ visited, place ∈ key :: visited := fun _ h => List.mem_cons_of_mem _ h
  constructor
  · intro hmet
    induction hmet with
    | @start place hmem hnew =>
      by_cases hplace : place = key
      · exact Or.inl hplace
      · have hrest : place ∈ rest := (List.mem_cons.mp hmem).resolve_left hplace
        exact Or.inr (.start (List.mem_append_right _ hrest) (by simp [hplace, hnew]))
    | @step place next _ hread hnew ih =>
      by_cases hnext : next = key
      · exact Or.inl hnext
      have hnew' : next ∉ key :: visited := by simp [hnext, hnew]
      -- a path that comes back to the place is cut there
      rcases ih with rfl | ih
      · exact Or.inr (.start (List.mem_append_left _ ((hreads next).mpr hread)) hnew')
      · exact Or.inr (.step ih hread hnew')
  · rintro (rfl | hmet)
    · exact .start List.mem_cons_self h
    · induction hmet with
      | start hmem hnew =>
        have hnew' := fun hmem => hnew (hweaker _ hmem)
        rcases List.mem_append.mp hmem with hmem | hmem
        · exact .step (.start List.mem_cons_self h) ((hreads _).mp hmem) hnew'
        · exact .start (List.mem_cons_of_mem _ hmem) hnew'
      | step _ hread hnew ih => exact .step ih hread fun hmem => hnew (hweaker _ hmem)

theorem met_cons_view (h : key ∉ visited)
    (hobject : catalog.object? key.schema key.name = some (.view view)) :
    catalog.Met visited (key :: rest) place ↔
      place = key ∨ catalog.Met (key :: visited) (viewReads key.schema view ++ rest) place :=
  met_cons h _ fun _ => (reads_iff (object?_eq_view_iff.mp hobject)).symm

theorem met_cons_leaf (h : key ∉ visited)
    (hobject : ∀ view, catalog.object? key.schema key.name ≠ some (.view view)) :
    catalog.Met visited (key :: rest) place ↔
      place = key ∨ catalog.Met (key :: visited) rest place := by
  refine met_cons h [] fun next => ⟨fun hmem => by simp at hmem, fun hreads => ?_⟩
  obtain ⟨view, hview, -⟩ := hreads.exists_view
  exact absurd (object?_eq_view_iff.mpr hview) (hobject view)

/-- The places of a list are met after those of another one. -/
theorem met_append (hvisited' : ∀ place, place ∈ visited' ↔
      place ∈ visited ∨ catalog.Met visited pending place) :
    catalog.Met visited (pending ++ rest) place ↔
      catalog.Met visited pending place ∨ catalog.Met visited' rest place := by
  constructor
  · intro hmet
    -- what is met a second time was met from the first list
    have hfirst : ∀ place, place ∉ visited → place ∈ visited' → catalog.Met visited pending place :=
      fun place hnew hmem => ((hvisited' place).mp hmem).resolve_left hnew
    induction hmet with
    | @start place hmem hnew =>
      by_cases hplace : place ∈ visited'
      · exact Or.inl (hfirst place hnew hplace)
      · rcases List.mem_append.mp hmem with hmem | hmem
        · exact Or.inl (.start hmem hnew)
        · exact Or.inr (.start hmem hplace)
    | @step place next _ hread hnew ih =>
      by_cases hnext : next ∈ visited'
      · exact Or.inl (hfirst next hnew hnext)
      · rcases ih with ih | ih
        · exact Or.inl (.step ih hread hnew)
        · exact Or.inr (.step ih hread hnext)
  · rintro (hmet | hmet)
    · exact hmet.mono (fun _ h => h) fun _ h => List.mem_append_left _ h
    · exact hmet.mono (fun place h => (hvisited' place).mpr (Or.inl h))
        fun _ h => List.mem_append_right _ h

/-- From what a view reads one meets all that the view leads to, but not the view itself. -/
theorem met_viewReads_iff (hview : catalog.ViewAt key view) :
    catalog.Met [key] (viewReads key.schema view) place ↔
      place ≠ key ∧ TransGen catalog.Reads key place := by
  constructor
  · intro hmet
    refine ⟨fun h => hmet.not_mem (h ▸ List.mem_singleton_self key), ?_⟩
    induction hmet with
    | start h _ => exact .single ((reads_iff hview).mpr h)
    | step _ hreads _ ih => exact ih.tail hreads
  · rintro ⟨hne, hpath⟩
    have hstart : ∀ next, next ≠ key → catalog.Reads key next →
        catalog.Met [key] (viewReads key.schema view) next := fun next hnext hreads =>
      .start ((reads_iff hview).mp hreads) (by simpa using hnext)
    induction hpath with
    | single hreads => exact hstart _ hne hreads
    | @tail middle next _ hreads ih =>
      by_cases hmiddle : middle = key
      · exact hstart next hne (hmiddle ▸ hreads)
      · exact .step (ih hmiddle) hreads (by simpa using hne)

end Catalog

end QueryTyping
