import Mathlib.Data.List.Basic
import QueryTyping.Proofs.Catalog.Walk

/-!
# The names that views record

A view is stored under a name and records a name. References lead to the places where views are
stored, so the recorded names play no part in what a catalog leads to, or which tables are found
from given places (`Catalog.baseTablesFrom_withoutViewNames`).

They play a part in one respect: the walk of a view begins as if it had been at the place that the
view records as its own. `Walks.exists_skipping` says what this does to a walk, unless a view stands
at that place and would be opened: the place is left out, if a table stands there, and all else is
as before. So the tables of a view are those that its references lead to, without the place that the
view records (`Catalog.baseTables_eq_filter`), and another recorded name changes them exactly if it
makes a difference which place is left out (`Catalog.baseTables_eq_iff`).
-/

namespace QueryTyping

/-- The same view without the name that it records. -/
def View.withoutName (view : View) : View := { view with name := "" }

/-- The same object without the name that it records, if it is a view. -/
def SchemaObject.withoutViewName : SchemaObject → SchemaObject
  | .table found => .table found
  | .view found => .view found.withoutName

namespace Schema

/-- The same schema without the names that its views record. -/
def withoutViewNames (schema : Schema) : Schema :=
  { schema with views := schema.views.mapEntries fun _ view => view.withoutName }

theorem object?_withoutViewNames (schema : Schema) (name : String) :
    schema.withoutViewNames.object? name =
      (schema.object? name).map SchemaObject.withoutViewName := by
  have htables : schema.withoutViewNames.tables = schema.tables := rfl
  unfold object?
  rw [htables]
  cases schema.tables.get? name with
  | some table => rfl
  | none =>
    dsimp only [withoutViewNames]
    rw [Dictionary.get?_mapEntries]
    cases schema.views.get? name with
    | none => rfl
    | some view => rfl

theorem objectNames_withoutViewNames (schema : Schema) :
    schema.withoutViewNames.objectNames = schema.objectNames := by
  unfold objectNames Dictionary.names withoutViewNames Dictionary.mapEntries
  rw [List.map_map]
  rfl

end Schema

namespace Catalog

variable {catalog other : Catalog} {key place : ObjectKey} {view view' : View}
  {pending : List ObjectKey} {walk walk' skipping : Walk}

/-- The same catalog without the names that views record. -/
def withoutViewNames (catalog : Catalog) : Catalog :=
  { catalog with schemas := catalog.schemas.mapEntries fun _ schema => schema.withoutViewNames }

theorem schema?_withoutViewNames (catalog : Catalog) (name : String) :
    catalog.withoutViewNames.schema? name =
      (catalog.schema? name).map Schema.withoutViewNames := by
  unfold schema? withoutViewNames
  rw [Dictionary.get?_mapEntries]

theorem object?_withoutViewNames (catalog : Catalog) (schema name : String) :
    catalog.withoutViewNames.object? schema name =
      (catalog.object? schema name).map SchemaObject.withoutViewName := by
  unfold object?
  rw [schema?_withoutViewNames]
  cases catalog.schema? schema with
  | none => rfl
  | some found => exact found.object?_withoutViewNames name

theorem objectKeys_withoutViewNames (catalog : Catalog) :
    catalog.withoutViewNames.objectKeys = catalog.objectKeys := by
  unfold objectKeys withoutViewNames Dictionary.mapEntries
  rw [List.flatMap_map]
  simp only [Schema.objectNames_withoutViewNames]

/-- The tables that are found from given places do not depend on the names that views record. -/
theorem baseTablesFrom_withoutViewNames (catalog : Catalog) (unmet pending : List ObjectKey) :
    catalog.withoutViewNames.baseTablesFrom unmet pending =
      catalog.baseTablesFrom unmet pending := by
  fun_induction baseTablesFrom catalog unmet pending with
  | case1 unmet => rw [baseTablesFrom]
  | case2 unmet key rest hmem left table hobject ih =>
    have hobject' := catalog.object?_withoutViewNames key.schema key.name
    rw [hobject] at hobject'
    rw [baseTablesFrom_table hmem hobject', ih]
  | case3 unmet key rest hmem left view hobject ih =>
    have hobject' := catalog.object?_withoutViewNames key.schema key.name
    rw [hobject] at hobject'
    rw [baseTablesFrom_view hmem hobject']
    exact ih
  | case4 unmet key rest hmem left hobject ih =>
    have hobject' := catalog.object?_withoutViewNames key.schema key.name
    rw [hobject] at hobject'
    rw [baseTablesFrom, dif_pos hmem]
    simp only [hobject']
    exact ih
  | case5 unmet key rest hmem ih => rw [baseTablesFrom_of_not_mem hmem, ih]

/-! ## Catalogs that differ in the names that views record -/

section Same

variable (h : other.withoutViewNames = catalog.withoutViewNames)
include h

theorem defaultSchema_eq_of_same : other.defaultSchema = catalog.defaultSchema := by
  show other.withoutViewNames.defaultSchema = catalog.withoutViewNames.defaultSchema
  rw [h]

theorem object?_of_same (schema name : String) :
    (other.object? schema name).map SchemaObject.withoutViewName =
      (catalog.object? schema name).map SchemaObject.withoutViewName := by
  rw [← object?_withoutViewNames, ← object?_withoutViewNames, h]

theorem exists_viewAt_of_same (hview : catalog.ViewAt key view) :
    ∃ view', other.ViewAt key view' := by
  have hobject := object?_of_same h key.schema key.name
  rw [object?_eq_view_iff.mpr hview] at hobject
  obtain ⟨found, hfound, hnames⟩ := Option.map_eq_some_iff.mp hobject
  cases found with
  | table table => cases hnames
  | view view' => exact ⟨view', object?_eq_view_iff.mp hfound⟩

theorem withoutName_eq_of_same (hview : catalog.ViewAt key view)
    (hview' : other.ViewAt key view') : view'.withoutName = view.withoutName := by
  have hobject := object?_of_same h key.schema key.name
  rw [object?_eq_view_iff.mpr hview, object?_eq_view_iff.mpr hview'] at hobject
  simpa [SchemaObject.withoutViewName] using hobject

/-- The tables that a view reads are found in the one catalog as in the other, if the view goes by
the same name. -/
theorem baseTables_of_same (home : String) (hview : view'.withoutName = view.withoutName) :
    other.baseTables home view' = catalog.baseTables home { view with name := view'.name } := by
  have hreads : viewReads home view' = viewReads home view := by
    show viewReads home view'.withoutName = viewReads home view.withoutName
    rw [hview]
  unfold baseTables
  show other.baseTablesFrom _ (viewReads home view') =
    catalog.baseTablesFrom _ (viewReads home view)
  rw [← other.baseTablesFrom_withoutViewNames, ← catalog.baseTablesFrom_withoutViewNames,
    ← other.objectKeys_withoutViewNames, ← catalog.objectKeys_withoutViewNames, h, hreads]

end Same

/-! ## Walks that have been at one more place -/

/-- The second walk has been where the first one has and at one more place, where it has touched no
table. -/
structure Skips (key : ObjectKey) (walk skipping : Walk) : Prop where
  mem_visited : ∀ place, place ∈ skipping.visited ↔ place ∈ walk.visited ∨ place = key
  touched_eq : skipping.touched = walk.touched.filter (·.key ≠ key)

theorem Skips.mark (h : Skips key walk skipping) (place : ObjectKey) :
    Skips key (walk.mark place) (skipping.mark place) where
  mem_visited other := by
    simp only [Walk.visited_mark, List.mem_cons, h.mem_visited, or_assoc]
  touched_eq := h.touched_eq

theorem Skips.touch (h : Skips key walk skipping) (hne : place ≠ key) (table : Table) :
    Skips key (walk.touch place table) (skipping.touch place table) where
  mem_visited := (h.mark place).mem_visited
  touched_eq := by
    simp [Walk.touch, h.touched_eq, List.filter_append, hne]

theorem Skips.miss (h : Skips key walk skipping) (place : ObjectKey) :
    Skips key (walk.miss place) (skipping.miss place) where
  mem_visited := (h.mark place).mem_visited
  touched_eq := h.touched_eq

/-- The first walk comes to the place, where no view stands. -/
theorem Skips.catchUp (h : Skips key walk skipping) (hvisited : walk'.visited = key :: walk.visited)
    (htouched : walk'.touched = walk.touched ∨
      ∃ table, walk'.touched = walk.touched ++ [⟨key, table⟩]) :
    Skips key walk' skipping where
  mem_visited place := by
    rw [h.mem_visited, hvisited, List.mem_cons]
    grind
  touched_eq := by
    rcases htouched with htouched | ⟨table, htouched⟩
    · rw [htouched, h.touched_eq]
    · rw [htouched, h.touched_eq]
      simp

/-- A walk that has been at one more place goes on like the other one, if the other one opens no
view there. -/
theorem Walks.exists_skipping (h : catalog.Walks pending walk walk')
    (hskips : Skips key walk skipping)
    (hview : ∀ inner, catalog.Met walk.visited pending key → ¬catalog.ViewAt key inner) :
    ∃ skipping', catalog.Walks pending skipping skipping' ∧ Skips key walk' skipping' := by
  induction h generalizing skipping with
  | done walk => exact ⟨skipping, .done skipping, hskips⟩
  | @again place rest walk walk' hmem _ ih =>
    obtain ⟨skipping', hrest, hskips'⟩ := ih hskips (by rwa [← met_cons_of_mem hmem])
    exact ⟨skipping', .again ((hskips.mem_visited place).mpr (Or.inl hmem)) hrest, hskips'⟩
  | @table place rest walk walk' table hnew hobject _ ih =>
    have hrest : ∀ inner, catalog.Met (place :: walk.visited) rest key →
        ¬catalog.ViewAt key inner := fun inner hmet =>
      hview inner ((met_cons_leaf hnew (by simp [hobject])).mpr (Or.inr hmet))
    by_cases hplace : place = key
    · subst hplace
      obtain ⟨skipping', hwalks, hskips'⟩ := ih (hskips.catchUp rfl (Or.inr ⟨table, rfl⟩)) hrest
      exact ⟨skipping', .again ((hskips.mem_visited place).mpr (Or.inr rfl)) hwalks, hskips'⟩
    · obtain ⟨skipping', hwalks, hskips'⟩ := ih (hskips.touch hplace table) hrest
      have hnew' : place ∉ skipping.visited := by simp [hskips.mem_visited, hnew, hplace]
      exact ⟨skipping', .table hnew' hobject hwalks, hskips'⟩
  | @view place rest walk walk₁ walk' view hnew hobject hinner _ ihinner ihrest =>
    have hplace : place ≠ key := by
      rintro rfl
      exact hview view (.start List.mem_cons_self hnew) (object?_eq_view_iff.mp hobject)
    have hnew' : place ∉ skipping.visited := by simp [hskips.mem_visited, hnew, hplace]
    -- what is met behind the view is met first, then the rest
    have hmet : ∀ inner, catalog.Met (place :: walk.visited) (viewReads place.schema view) key ∨
        catalog.Met walk₁.visited rest key → ¬catalog.ViewAt key inner := by
      intro inner hmet
      refine hview inner ((met_cons_view hnew hobject).mpr (Or.inr ?_))
      exact (met_append hinner.mem_visited_iff).mpr hmet
    obtain ⟨skipping₁, hwalks₁, hskips₁⟩ :=
      ihinner (hskips.mark place) fun inner hmem => hmet inner (Or.inl hmem)
    obtain ⟨skipping', hwalks, hskips'⟩ := ihrest hskips₁ fun inner hmem => hmet inner (Or.inr hmem)
    exact ⟨skipping', .view hnew' hobject hwalks₁ hwalks, hskips'⟩
  | @missing place rest walk walk' hnew hobject _ ih =>
    have hrest : ∀ inner, catalog.Met (place :: walk.visited) rest key →
        ¬catalog.ViewAt key inner := fun inner hmet =>
      hview inner ((met_cons_leaf hnew (by simp [hobject])).mpr (Or.inr hmet))
    by_cases hplace : place = key
    · subst hplace
      obtain ⟨skipping', hwalks, hskips'⟩ := ih (hskips.catchUp rfl (Or.inl rfl)) hrest
      exact ⟨skipping', .again ((hskips.mem_visited place).mpr (Or.inr rfl)) hwalks, hskips'⟩
    · obtain ⟨skipping', hwalks, hskips'⟩ := ih (hskips.miss place) hrest
      have hnew' : place ∉ skipping.visited := by simp [hskips.mem_visited, hnew, hplace]
      exact ⟨skipping', .missing hnew' hobject hwalks, hskips'⟩

/-- The tables that the references of a view lead to, whatever name the view records. -/
def tablesLedTo (catalog : Catalog) (home : String) (view : View) : List BaseTable :=
  catalog.baseTablesFrom (catalog.unmetKeys []) (viewReads home view)

theorem mem_tablesLedTo_iff {home : String} {table : Table} :
    ⟨place, table⟩ ∈ catalog.tablesLedTo home view ↔
      catalog.Met [] (viewReads home view) place ∧
        catalog.table? place.schema place.name = some table := by
  obtain ⟨walk, hwalks⟩ := catalog.exists_walks (viewReads home view) { visited := [] }
  obtain ⟨news, hrecords, hnews⟩ := hwalks.exists_news
  rw [tablesLedTo, ← hwalks.touched_eq, hrecords.mem_touched_iff, hnews]

/-- The tables of a view are those that its references lead to, except at the place that the view
records as its own, if they do not lead to a view there. -/
theorem baseTables_eq_filter {home : String}
    (hview : ∀ inner, catalog.Met [] (viewReads home view) ⟨home, view.name⟩ →
      ¬catalog.ViewAt ⟨home, view.name⟩ inner) :
    catalog.baseTables home view =
      (catalog.tablesLedTo home view).filter (·.key ≠ ⟨home, view.name⟩) := by
  obtain ⟨walk, hwalks⟩ := catalog.exists_walks (viewReads home view) { visited := [] }
  have hskips : Skips ⟨home, view.name⟩ { visited := [] } { visited := [⟨home, view.name⟩] } :=
    ⟨by simp, rfl⟩
  obtain ⟨skipping, hskipping, hskips'⟩ := hwalks.exists_skipping hskips hview
  rw [baseTables_eq, ← hskipping.touched_eq, hskips'.touched_eq, hwalks.touched_eq, tablesLedTo]

theorem mem_baseTables_iff {home : String} {table : Table} :
    ⟨key, table⟩ ∈ catalog.baseTables home view ↔
      catalog.Met [⟨home, view.name⟩] (viewReads home view) key ∧
        catalog.table? key.schema key.name = some table := by
  obtain ⟨walk, hwalk⟩ := catalog.exists_walked home view
  rw [hwalk.baseTables_eq, hwalk.mem_touched]

/-- Tables at different places are left out of a list with the same result only if none of the two
places is in it. -/
theorem filter_key_ne_eq_iff {tables : List BaseTable} {key key' : ObjectKey} :
    tables.filter (·.key ≠ key') = tables.filter (·.key ≠ key) ↔
      key' = key ∨ ∀ place ∈ [key, key'], ∀ table, ⟨place, table⟩ ∉ tables := by
  constructor
  · intro h
    refine or_iff_not_imp_left.mpr fun hne place hplace table hmem => ?_
    have hiff : ∀ base : BaseTable, base ∈ tables → (base.key ≠ key' ↔ base.key ≠ key) := by
      intro base hbase
      have hfilter : base ∈ tables.filter (·.key ≠ key') ↔ base ∈ tables.filter (·.key ≠ key) := by
        rw [h]
      simpa [hbase] using hfilter
    rcases List.mem_pair.mp hplace with rfl | rfl
    · exact (hiff _ hmem).mp (fun heq => hne heq.symm) rfl
    · exact (hiff _ hmem).mpr hne rfl
  · rintro (rfl | habsent)
    · rfl
    · have hself : ∀ place ∈ [key, key'], tables.filter (·.key ≠ place) = tables := by
        intro place hplace
        refine List.filter_eq_self.mpr fun base hbase => ?_
        simp only [ne_eq, decide_not, Bool.not_eq_eq_eq_not, Bool.not_true, decide_eq_false_iff_not]
        rintro rfl
        exact habsent _ hplace base.table hbase
      rw [hself key (by simp), hself key' (by simp)]

/-- The tables of a view do not change with the name that it records exactly if none of the two
places is a table that its references lead to. Here they must not lead to a view at these places. -/
theorem baseTables_eq_iff {home recorded : String}
    (hview : ∀ place ∈ [⟨home, view.name⟩, ⟨home, recorded⟩],
      catalog.Met [] (viewReads home view) place → ∀ inner, ¬catalog.ViewAt place inner) :
    catalog.baseTables home { view with name := recorded } = catalog.baseTables home view ↔
      (⟨home, recorded⟩ : ObjectKey) = ⟨home, view.name⟩ ∨
        ∀ place ∈ [⟨home, view.name⟩, ⟨home, recorded⟩],
          catalog.Met [] (viewReads home view) place →
            catalog.table? place.schema place.name = none := by
  have hfilter : catalog.baseTables home view =
      (catalog.tablesLedTo home view).filter (·.key ≠ ⟨home, view.name⟩) :=
    baseTables_eq_filter fun inner hmet => hview _ (by simp) hmet inner
  have hfilter' : catalog.baseTables home { view with name := recorded } =
      (catalog.tablesLedTo home view).filter (·.key ≠ ⟨home, recorded⟩) :=
    baseTables_eq_filter fun inner hmet => hview _ (by simp) hmet inner
  rw [hfilter, hfilter', filter_key_ne_eq_iff]
  refine or_congr_right (forall₂_congr fun place _ => ?_)
  simp only [mem_tablesLedTo_iff, not_and]
  rw [forall_comm, Option.eq_none_iff_forall_ne_some]

end Catalog

end QueryTyping
