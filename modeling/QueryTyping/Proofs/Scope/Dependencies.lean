import QueryTyping.Proofs.Catalog.Walk

/-!
# The tables that a view depends on

Looking up a view by its schema and name finds its columns and touches tables. These are the tables
at the places to which references lead from the view, in one step or more, each of them once
(`Scope.view_touches_exactly`). Views may read one another or themselves and references may name
nothing; the plain walk over the references ends all the same.
-/

namespace QueryTyping

namespace Scope

open Relation

theorem schemaObject_of_viewAt {catalog : Catalog} {schema name : String} {view : View}
    (h : catalog.ViewAt ⟨schema, name⟩ view) (config : SuggestionConfig) :
    schemaObject catalog config schema name =
      (.found (.ofView view), catalog.baseTables schema view) := by
  have hobject := Catalog.object?_eq_view_iff.mpr h
  unfold Catalog.object? at hobject
  unfold schemaObject
  cases hschema : catalog.schema? schema with
  | none => simp [hschema] at hobject
  | some found =>
    rw [hschema] at hobject
    have hfound : found.object? name = some (.view view) := hobject
    simp only [hfound]

theorem table_of_viewAt (scope : Scope) {schema name : String} {view : View}
    (h : scope.catalog.ViewAt ⟨schema, name⟩ view) :
    scope.table ⟨some schema, name⟩ =
      (.found (.ofView view), scope.catalog.baseTables schema view) :=
  schemaObject_of_viewAt h scope.innermost.config

theorem table_of_walked (scope : Scope) {schema name : String} {view : View} {walk : Walk}
    (h : scope.catalog.ViewAt ⟨schema, name⟩ view) (hwalk : scope.catalog.Walked schema view walk) :
    scope.table ⟨some schema, name⟩ = (.found (.ofView view), walk.touched) := by
  rw [scope.table_of_viewAt h, hwalk.baseTables_eq]

/-- A view that records its own name touches the tables that references lead to, each once and
nothing else. -/
theorem view_touches_exactly (scope : Scope) {schema name : String} {view : View}
    (htable : scope.catalog.table? schema name = none)
    (hview : scope.catalog.view? schema name = some view) (hname : view.name = name) :
    ∃ walk, Ends (scope.catalog.viewLoop schema view) walk ∧
      scope.table ⟨some schema, name⟩ = (.found (.ofView view), walk.touched) ∧
      (walk.touched.map (·.key)).Nodup ∧
      ∀ key table, ⟨key, table⟩ ∈ walk.touched ↔
        TransGen scope.catalog.Reads ⟨schema, name⟩ key ∧
          scope.catalog.table? key.schema key.name = some table := by
  have hat : scope.catalog.ViewAt ⟨schema, name⟩ view := ⟨htable, hview⟩
  obtain ⟨walk, hwalk⟩ := scope.catalog.exists_walked schema view
  refine ⟨walk, hwalk.ends, scope.table_of_walked hat hwalk, hwalk.nodup_touched, ?_⟩
  intro key table
  rw [hwalk.mem_touched, hname, Catalog.met_viewReads_iff hat]
  constructor
  · rintro ⟨⟨-, hpath⟩, hfound⟩
    exact ⟨hpath, hfound⟩
  · rintro ⟨hpath, hfound⟩
    refine ⟨⟨?_, hpath⟩, hfound⟩
    -- the view itself is not hidden by a table
    rintro rfl
    rw [htable] at hfound
    cases hfound

/-- Two views that read each other, a view that reads itself, a name that stands for nothing, and a
view of another schema that a table hides. -/
theorem view_touches_exactly_in_cycle :
    let catalog : Catalog := ((Catalog.new "main").withTable { name := "t" }
      |>.withView { name := "a", references := [⟨none, "a"⟩, ⟨none, "b"⟩, ⟨none, "gone"⟩] }
      |>.withView { name := "b", references := [⟨none, "a"⟩, ⟨some "old", "t"⟩, ⟨none, "t"⟩] }
      |>.withSchema (({ name := "old" } : Schema).withTable { name := "t" }
        |>.withView { name := "t", references := [⟨none, "u"⟩] }
        |>.withTable { name := "u" }))
    let scope := Scope.root catalog
    let a : View := { name := "a", references := [⟨none, "a"⟩, ⟨none, "b"⟩, ⟨none, "gone"⟩] }
    scope.table ⟨some "main", "a"⟩ =
        (.found (.ofView a), [⟨⟨"old", "t"⟩, { name := "t" }⟩, ⟨⟨"main", "t"⟩, { name := "t" }⟩]) ∧
      TransGen catalog.Reads ⟨"main", "a"⟩ ⟨"old", "t"⟩ ∧
      ¬TransGen catalog.Reads ⟨"main", "a"⟩ ⟨"old", "u"⟩ := by
  intro catalog scope a
  have hnone : catalog.table? "main" "a" = none := by decide +kernel
  have hview : catalog.view? "main" "a" = some a := by decide +kernel
  obtain ⟨walk, -, htable, -, hmem⟩ := view_touches_exactly scope hnone hview rfl
  have hwalked : catalog.Walked "main" a
      { visited := [⟨"main", "gone"⟩, ⟨"main", "t"⟩, ⟨"old", "t"⟩, ⟨"main", "b"⟩, ⟨"main", "a"⟩]
        touched := [⟨⟨"old", "t"⟩, { name := "t" }⟩, ⟨⟨"main", "t"⟩, { name := "t" }⟩]
        missing := [⟨"main", "gone"⟩] } := by
    let b : View := { name := "b", references := [⟨none, "a"⟩, ⟨some "old", "t"⟩, ⟨none, "t"⟩] }
    have hb : catalog.object? "main" "b" = some (.view b) := by decide +kernel
    have hold : catalog.object? "old" "t" = some (.table { name := "t" }) := by decide +kernel
    have ht : catalog.object? "main" "t" = some (.table { name := "t" }) := by decide +kernel
    have hgone : catalog.object? "main" "gone" = none := by decide +kernel
    exact Catalog.Walks.walked <| .again (by decide) <| .view (by decide) hb
      (.again (by decide) <| .table (by decide) hold <| .table (by decide) ht <| .done _)
      (.missing (by decide) hgone <| .done _)
  have hfound := scope.table_of_walked ⟨hnone, hview⟩ hwalked
  have htouched := congrArg Prod.snd (htable.symm.trans hfound)
  refine ⟨hfound, ?_, ?_⟩
  · refine ((hmem ⟨"old", "t"⟩ { name := "t" }).mp ?_).1
    rw [show walk.touched = _ from htouched]
    simp
  · intro hpath
    have hu := (hmem ⟨"old", "u"⟩ { name := "u" }).mpr ⟨hpath, by decide +kernel⟩
    rw [show walk.touched = _ from htouched] at hu
    simp at hu

end Scope

end QueryTyping
