import Mathlib.Data.List.Nodup
import QueryTyping.Proofs.Catalog.References
import QueryTyping.Proofs.Loop

/-!
# The walk over the references of views

`Catalog.baseTables` keeps a list of places that are still to be read. Here the same walk is done
the plain way: view by view, with a call of its own for every view that is met and one record of
visited places for all calls. The record also holds the places where nothing stands. Such a loop
need not end, so it is cut off after a number of steps (`walkLoop`).

`Walks` lists what a call can do, and every call that is listed ends (`Walks.ends`). Main
statements:

* `Walks.mem_visited_iff` — a call visits exactly the places that are met
* `exists_walks` — every call ends, since a view is opened only once
* `Walks.touched_append` — the tables of a call are those that `baseTablesFrom` finds
* `Walks.records` — of the places that a call visits the tables and the missing ones are recorded
* `Walks.walked` — what all this says of the walk of a view, and there is one (`exists_walked`)
-/

namespace QueryTyping

/-- What a walk has come upon so far. -/
structure Walk where
  /-- The places where it has been. -/
  visited : List ObjectKey
  /-- The tables, in the order in which they were met. -/
  touched : List BaseTable := []
  /-- The places where nothing stands. -/
  missing : List ObjectKey := []
  deriving DecidableEq

namespace Walk

/-- A place has been visited. -/
def mark (walk : Walk) (key : ObjectKey) : Walk := { walk with visited := key :: walk.visited }

/-- A table has been met at a new place. -/
def touch (walk : Walk) (key : ObjectKey) (table : Table) : Walk :=
  { walk.mark key with touched := walk.touched ++ [⟨key, table⟩] }

/-- Nothing stands at a new place. -/
def miss (walk : Walk) (key : ObjectKey) : Walk :=
  { walk.mark key with missing := walk.missing ++ [key] }

variable (walk : Walk) (key : ObjectKey) (table : Table)

@[simp] theorem visited_mark : (walk.mark key).visited = key :: walk.visited := rfl

@[simp] theorem visited_touch : (walk.touch key table).visited = key :: walk.visited := rfl

@[simp] theorem visited_miss : (walk.miss key).visited = key :: walk.visited := rfl

end Walk

namespace Catalog

variable {catalog : Catalog} {key place : ObjectKey} {view : View} {table : Table}
  {visited start news unmet pending rest : List ObjectKey} {walk walk' : Walk}

/-- Goes through places, and through all that the views there read before it goes on. -/
def walkLoop (catalog : Catalog) : Nat → List ObjectKey → Walk → Option Walk
  | 0, _, _ => none
  | _ + 1, [], walk => some walk
  | steps + 1, key :: rest, walk =>
    if key ∈ walk.visited then catalog.walkLoop steps rest walk
    else
      match catalog.object? key.schema key.name with
      | some (.table table) => catalog.walkLoop steps rest (walk.touch key table)
      | some (.view view) => do
        let walk ← catalog.walkLoop steps (viewReads key.schema view) (walk.mark key)
        catalog.walkLoop steps rest walk
      | none => catalog.walkLoop steps rest (walk.miss key)

/-- A call that is given the places `pending` and the record `walk` leaves the record `walk'`. -/
inductive Walks (catalog : Catalog) : List ObjectKey → Walk → Walk → Prop where
  | done (walk : Walk) : Walks catalog [] walk walk
  /-- The place was visited before. -/
  | again {key : ObjectKey} {rest : List ObjectKey} {walk walk' : Walk}
      (hmem : key ∈ walk.visited) (hrest : Walks catalog rest walk walk') :
      Walks catalog (key :: rest) walk walk'
  | table {key : ObjectKey} {rest : List ObjectKey} {walk walk' : Walk} {table : Table}
      (hnew : key ∉ walk.visited)
      (hobject : catalog.object? key.schema key.name = some (.table table))
      (hrest : Walks catalog rest (walk.touch key table) walk') :
      Walks catalog (key :: rest) walk walk'
  /-- What the view reads is gone through before the rest. -/
  | view {key : ObjectKey} {rest : List ObjectKey} {walk walk₁ walk' : Walk} {view : View}
      (hnew : key ∉ walk.visited)
      (hobject : catalog.object? key.schema key.name = some (.view view))
      (hinner : Walks catalog (viewReads key.schema view) (walk.mark key) walk₁)
      (hrest : Walks catalog rest walk₁ walk') :
      Walks catalog (key :: rest) walk walk'
  | missing {key : ObjectKey} {rest : List ObjectKey} {walk walk' : Walk}
      (hnew : key ∉ walk.visited) (hobject : catalog.object? key.schema key.name = none)
      (hrest : Walks catalog rest (walk.miss key) walk') :
      Walks catalog (key :: rest) walk walk'

theorem Walks.ends (h : catalog.Walks pending walk walk') :
    Ends (catalog.walkLoop · pending walk) walk' := by
  induction h with
  | done walk =>
    apply Ends.succ
    simp [walkLoop]
  | again hmem _ ih =>
    apply Ends.succ
    simpa only [walkLoop, if_pos hmem] using ih
  | table hnew hobject _ ih =>
    apply Ends.succ
    simpa only [walkLoop, if_neg hnew, hobject] using ih
  | view hnew hobject _ _ ihinner ihrest =>
    apply Ends.succ
    simp only [walkLoop, if_neg hnew, hobject]
    exact ihinner.bind_iff.mpr ihrest
  | missing hnew hobject _ ih =>
    apply Ends.succ
    simpa only [walkLoop, if_neg hnew, hobject] using ih

/-! ## The places that are visited -/

/-- A call visits what is met from its places. -/
theorem Walks.mem_visited_iff (h : catalog.Walks pending walk walk') :
    ∀ place, place ∈ walk'.visited ↔
      place ∈ walk.visited ∨ catalog.Met walk.visited pending place := by
  induction h with
  | done walk => simp
  | again hmem _ ih =>
    intro place
    rw [ih place, met_cons_of_mem hmem]
  | @table key pending walk walk' table hnew hobject _ ih =>
    intro place
    rw [ih place, met_cons_leaf hnew (by simp [hobject])]
    simp only [Walk.visited_touch, List.mem_cons, or_assoc, or_left_comm]
  | @view key pending walk walk₁ walk' view hnew hobject _ _ ihinner ihrest =>
    intro place
    simp only [Walk.visited_mark] at ihinner
    rw [ihrest place, met_cons_view hnew hobject, met_append ihinner, ihinner place]
    simp only [List.mem_cons, or_assoc, or_left_comm]
  | @missing key pending walk walk' hnew hobject _ ih =>
    intro place
    rw [ih place, met_cons_leaf hnew (by simp [hobject])]
    simp only [Walk.visited_miss, List.mem_cons, or_assoc, or_left_comm]

theorem Walks.visited_subset (h : catalog.Walks pending walk walk') :
    ∀ place ∈ walk.visited, place ∈ walk'.visited :=
  fun place hmem => (h.mem_visited_iff place).mpr (Or.inl hmem)

/-! ## Every call ends -/

/-- The places of the catalog that were not visited. -/
def unmetKeys (catalog : Catalog) (visited : List ObjectKey) : List ObjectKey :=
  catalog.objectKeys.filter (· ∉ visited)

theorem mem_unmetKeys_iff :
    key ∈ catalog.unmetKeys visited ↔
      (catalog.object? key.schema key.name).isSome ∧ key ∉ visited := by
  simp [unmetKeys, mem_objectKeys_iff]

theorem without_unmetKeys :
    key.without (catalog.unmetKeys visited) = catalog.unmetKeys (key :: visited) := by
  unfold ObjectKey.without unmetKeys
  rw [List.filter_filter]
  congr 1
  funext place
  simp

theorem unmetKeys_cons_of_missing (h : catalog.object? key.schema key.name = none) :
    catalog.unmetKeys (key :: visited) = catalog.unmetKeys visited := by
  rw [← without_unmetKeys]
  refine List.filter_eq_self.mpr fun place hplace => ?_
  have hsome := (mem_unmetKeys_iff.mp hplace).1
  have hne : place ≠ key := by
    rintro rfl
    simp [h] at hsome
  simpa using hne

theorem length_unmetKeys_le {visited' : List ObjectKey}
    (h : ∀ place ∈ visited, place ∈ visited') :
    (catalog.unmetKeys visited').length ≤ (catalog.unmetKeys visited).length := by
  unfold unmetKeys
  rw [← List.countP_eq_length_filter, ← List.countP_eq_length_filter]
  refine List.countP_mono_left fun place _ hplace => ?_
  simp only [decide_eq_true_eq] at hplace ⊢
  exact fun hmem => hplace (h place hmem)

theorem length_unmetKeys_cons_lt (hobject : catalog.object? key.schema key.name = some (.view view))
    (hnew : key ∉ visited) :
    (catalog.unmetKeys (key :: visited)).length < (catalog.unmetKeys visited).length := by
  rw [← without_unmetKeys]
  exact ObjectKey.length_without_lt (mem_unmetKeys_iff.mpr ⟨by simp [hobject], hnew⟩)

/-- A call ends if the calls for the views that it opens do: these have fewer places to meet. -/
theorem exists_walks_of_lt {bound : Nat}
    (hopened : ∀ pending walk, (catalog.unmetKeys walk.visited).length < bound →
      ∃ walk', catalog.Walks pending walk walk')
    (pending : List ObjectKey) (walk : Walk)
    (hbound : (catalog.unmetKeys walk.visited).length ≤ bound) :
    ∃ walk', catalog.Walks pending walk walk' := by
  induction pending generalizing walk with
  | nil => exact ⟨walk, .done walk⟩
  | cons key rest ih =>
    have hmark : (catalog.unmetKeys (key :: walk.visited)).length ≤ bound :=
      Nat.le_trans (length_unmetKeys_le fun _ h => List.mem_cons_of_mem _ h) hbound
    by_cases hmem : key ∈ walk.visited
    · obtain ⟨walk', hrest⟩ := ih walk hbound
      exact ⟨walk', .again hmem hrest⟩
    rcases hobject : catalog.object? key.schema key.name with _ | table | view
    · obtain ⟨walk', hrest⟩ := ih (walk.miss key) hmark
      exact ⟨walk', .missing hmem hobject hrest⟩
    · obtain ⟨walk', hrest⟩ := ih (walk.touch key table) hmark
      exact ⟨walk', .table hmem hobject hrest⟩
    · have hlt := length_unmetKeys_cons_lt hobject hmem
      obtain ⟨walk₁, hinner⟩ :=
        hopened (viewReads key.schema view) (walk.mark key) (Nat.lt_of_lt_of_le hlt hbound)
      obtain ⟨walk', hrest⟩ :=
        ih walk₁ (Nat.le_trans (length_unmetKeys_le hinner.visited_subset) hmark)
      exact ⟨walk', .view hmem hobject hinner hrest⟩

/-- Every call comes to an end. -/
theorem exists_walks (catalog : Catalog) (pending : List ObjectKey) (walk : Walk) :
    ∃ walk', catalog.Walks pending walk walk' := by
  have hall : ∀ bound pending walk, (catalog.unmetKeys walk.visited).length ≤ bound →
      ∃ walk', catalog.Walks pending walk walk' := by
    intro bound
    induction bound using Nat.strongRecOn with
    | ind bound ih =>
      refine exists_walks_of_lt fun pending walk hlt => ?_
      exact ih _ hlt pending walk (Nat.le_refl _)
  exact hall _ pending walk (Nat.le_refl _)

/-! ## The tables that are found -/

theorem baseTablesFrom_of_not_mem (h : key ∉ unmet) :
    catalog.baseTablesFrom unmet (key :: rest) = catalog.baseTablesFrom unmet rest := by
  rw [baseTablesFrom, dif_neg h]

theorem baseTablesFrom_table (h : key ∈ unmet)
    (hobject : catalog.object? key.schema key.name = some (.table table)) :
    catalog.baseTablesFrom unmet (key :: rest) =
      ⟨key, table⟩ :: catalog.baseTablesFrom (key.without unmet) rest := by
  rw [baseTablesFrom, dif_pos h]
  simp only [hobject]

theorem baseTablesFrom_view (h : key ∈ unmet)
    (hobject : catalog.object? key.schema key.name = some (.view view)) :
    catalog.baseTablesFrom unmet (key :: rest) =
      catalog.baseTablesFrom (key.without unmet) (viewReads key.schema view ++ rest) := by
  rw [baseTablesFrom, dif_pos h]
  simp only [hobject]

/-- A call touches the tables that `baseTablesFrom` finds among its places, before it comes to the
rest. -/
theorem Walks.touched_append (h : catalog.Walks pending walk walk') (rest : List ObjectKey) :
    walk.touched ++ catalog.baseTablesFrom (catalog.unmetKeys walk.visited) (pending ++ rest) =
      walk'.touched ++ catalog.baseTablesFrom (catalog.unmetKeys walk'.visited) rest := by
  induction h generalizing rest with
  | done walk => rfl
  | again hmem _ ih =>
    rw [List.cons_append, baseTablesFrom_of_not_mem fun h => (mem_unmetKeys_iff.mp h).2 hmem]
    exact ih rest
  | @table key pending walk walk' table hnew hobject _ ih =>
    have hunmet : key ∈ catalog.unmetKeys walk.visited :=
      mem_unmetKeys_iff.mpr ⟨by simp [hobject], hnew⟩
    rw [List.cons_append, baseTablesFrom_table hunmet hobject, without_unmetKeys, ← ih rest]
    simp [Walk.touch, Walk.mark]
  | @view key pending walk walk₁ walk' view hnew hobject _ _ ihinner ihrest =>
    have hunmet : key ∈ catalog.unmetKeys walk.visited :=
      mem_unmetKeys_iff.mpr ⟨by simp [hobject], hnew⟩
    rw [List.cons_append, baseTablesFrom_view hunmet hobject, without_unmetKeys, ← ihrest rest]
    exact ihinner (pending ++ rest)
  | @missing key pending walk walk' hnew hobject _ ih =>
    have hunmet : key ∉ catalog.unmetKeys walk.visited := by
      rw [mem_unmetKeys_iff, hobject]
      simp
    rw [List.cons_append, baseTablesFrom_of_not_mem hunmet, ← ih rest]
    show _ = walk.touched ++ catalog.baseTablesFrom (catalog.unmetKeys (key :: walk.visited)) _
    rw [unmetKeys_cons_of_missing hobject]

/-- A call that begins without a record touches the tables that `baseTablesFrom` finds. -/
theorem Walks.touched_eq (h : catalog.Walks pending { visited := start } walk) :
    walk.touched = catalog.baseTablesFrom (catalog.unmetKeys start) pending := by
  have htouched := h.touched_append []
  simpa [baseTablesFrom] using htouched.symm

/-! ## What is recorded -/

/-- The table at a place. -/
def baseTable? (catalog : Catalog) (key : ObjectKey) : Option BaseTable :=
  match catalog.object? key.schema key.name with
  | some (.table table) => some ⟨key, table⟩
  | _ => none

theorem baseTable?_eq_some_iff {base : BaseTable} :
    catalog.baseTable? key = some base ↔
      base.key = key ∧ catalog.table? key.schema key.name = some base.table := by
  rw [← object?_eq_table_iff, baseTable?]
  obtain ⟨place, table⟩ := base
  rcases catalog.object? key.schema key.name with _ | found | view
  · simp
  · simp [eq_comm]
  · simp

/-- Of a walk that began with the places `start` visited and has visited `news` since, in this
order, the record holds the tables and the places without anything. -/
structure Records (catalog : Catalog) (start news : List ObjectKey) (walk : Walk) : Prop where
  visited_eq : walk.visited = news.reverse ++ start
  nodup : news.Nodup
  not_mem_start : ∀ key ∈ news, key ∉ start
  touched_eq : walk.touched = news.filterMap catalog.baseTable?
  missing_eq : walk.missing =
    news.filter fun key => (catalog.object? key.schema key.name).isNone

theorem Records.mem_visited (h : catalog.Records start news walk) :
    place ∈ walk.visited ↔ place ∈ news ∨ place ∈ start := by
  rw [h.visited_eq]
  simp

/-- A new place is recorded as what stands there. -/
theorem Records.visit (h : catalog.Records start news walk) (hnew : key ∉ walk.visited)
    (hvisited : walk'.visited = key :: walk.visited)
    (htouched : walk'.touched = walk.touched ++ (catalog.baseTable? key).toList)
    (hmissing : walk'.missing = walk.missing ++
      [key].filter fun key => (catalog.object? key.schema key.name).isNone) :
    catalog.Records start (news ++ [key]) walk' := by
  rw [h.mem_visited, not_or] at hnew
  refine ⟨?_, ?_, ?_, ?_, ?_⟩
  · rw [hvisited, h.visited_eq]
    simp
  · refine List.nodup_append.mpr ⟨h.nodup, by simp, ?_⟩
    rintro place hplace _ hkey rfl
    exact hnew.1 (List.mem_singleton.mp hkey ▸ hplace)
  · intro place hplace
    rcases List.mem_append.mp hplace with hplace | hplace
    · exact h.not_mem_start place hplace
    · exact List.mem_singleton.mp hplace ▸ hnew.2
  · rw [htouched, h.touched_eq, List.filterMap_append]
    cases hbase : catalog.baseTable? key <;> simp [hbase]
  · rw [hmissing, h.missing_eq, List.filter_append]

theorem Walks.records (h : catalog.Walks pending walk walk') :
    ∀ {news : List ObjectKey}, catalog.Records start news walk →
      ∃ news', catalog.Records start news' walk' := by
  induction h with
  | done walk => exact fun hrecords => ⟨_, hrecords⟩
  | again _ _ ih => exact ih
  | @table key pending walk walk' table hnew hobject _ ih =>
    intro news hrecords
    exact ih (hrecords.visit hnew rfl (by simp [Walk.touch, baseTable?, hobject])
      (by simp [Walk.touch, Walk.mark, hobject]))
  | @view key pending walk walk₁ walk' view hnew hobject _ _ ihinner ihrest =>
    intro news hrecords
    obtain ⟨news₁, hrecords₁⟩ := ihinner (hrecords.visit hnew rfl
      (by simp [Walk.mark, baseTable?, hobject]) (by simp [Walk.mark, hobject]))
    exact ihrest hrecords₁
  | @missing key pending walk walk' hnew hobject _ ih =>
    intro news hrecords
    exact ih (hrecords.visit hnew rfl (by simp [Walk.miss, Walk.mark, baseTable?, hobject])
      (by simp [Walk.miss, hobject]))

theorem Records.nodup_touched (h : catalog.Records start news walk) :
    (walk.touched.map (·.key)).Nodup := by
  rw [h.touched_eq, List.map_filterMap]
  refine h.nodup.filterMap fun place place' key hkey hkey' => ?_
  obtain ⟨base, hbase, rfl⟩ := Option.map_eq_some_iff.mp hkey
  obtain ⟨base', hbase', heq⟩ := Option.map_eq_some_iff.mp hkey'
  rw [← (baseTable?_eq_some_iff.mp hbase).1, ← (baseTable?_eq_some_iff.mp hbase').1, heq]

theorem Records.mem_touched_iff (h : catalog.Records start news walk) :
    ⟨place, table⟩ ∈ walk.touched ↔
      place ∈ news ∧ catalog.table? place.schema place.name = some table := by
  rw [h.touched_eq, List.mem_filterMap]
  constructor
  · rintro ⟨key, hkey, hbase⟩
    obtain ⟨rfl, htable⟩ := baseTable?_eq_some_iff.mp hbase
    exact ⟨hkey, htable⟩
  · rintro ⟨hplace, htable⟩
    exact ⟨place, hplace, baseTable?_eq_some_iff.mpr ⟨rfl, htable⟩⟩

/-- A call that begins without a record leaves one of the places that are met. -/
theorem Walks.exists_news (h : catalog.Walks pending { visited := start } walk) :
    ∃ news, catalog.Records start news walk ∧
      ∀ place, place ∈ news ↔ catalog.Met start pending place := by
  obtain ⟨news, hrecords⟩ := h.records ⟨rfl, List.nodup_nil, by simp, rfl, rfl⟩
  refine ⟨news, hrecords, fun place => ?_⟩
  have hvisited := hrecords.mem_visited.symm.trans (h.mem_visited_iff place)
  constructor
  · intro hplace
    exact (hvisited.mp (Or.inl hplace)).resolve_left (hrecords.not_mem_start place hplace)
  · intro hmet
    exact (hvisited.mpr (Or.inr hmet)).resolve_right hmet.not_mem

/-! ## The walk of a view -/

/-- Goes through all that a view of the schema `home` reads; the view itself counts as visited,
under the name that it records. -/
def viewLoop (catalog : Catalog) (home : String) (view : View) (steps : Nat) : Option Walk :=
  catalog.walkLoop steps (viewReads home view) { visited := [⟨home, view.name⟩] }

/-- The walk of a view leaves the record `walk`. -/
structure Walked (catalog : Catalog) (home : String) (view : View) (walk : Walk) : Prop where
  ends : Ends (catalog.viewLoop home view) walk
  baseTables_eq : catalog.baseTables home view = walk.touched
  nodup_touched : (walk.touched.map (·.key)).Nodup
  mem_touched : ∀ place table, ⟨place, table⟩ ∈ walk.touched ↔
    catalog.Met [⟨home, view.name⟩] (viewReads home view) place ∧
      catalog.table? place.schema place.name = some table
  mem_missing : ∀ place, place ∈ walk.missing ↔
    catalog.Met [⟨home, view.name⟩] (viewReads home view) place ∧
      catalog.object? place.schema place.name = none

theorem baseTables_eq (catalog : Catalog) (home : String) (view : View) :
    catalog.baseTables home view =
      catalog.baseTablesFrom (catalog.unmetKeys [⟨home, view.name⟩]) (viewReads home view) := by
  unfold baseTables ObjectKey.without unmetKeys
  simp only [List.mem_singleton]

theorem Walks.walked {home : String} {view : View}
    (h : catalog.Walks (viewReads home view) { visited := [⟨home, view.name⟩] } walk) :
    catalog.Walked home view walk := by
  obtain ⟨news, hrecords, hnews⟩ := h.exists_news
  refine ⟨h.ends, ?_, hrecords.nodup_touched, ?_, ?_⟩
  · rw [baseTables_eq, h.touched_eq]
  · intro place table
    rw [← hnews, hrecords.mem_touched_iff]
  · intro place
    rw [← hnews, hrecords.missing_eq, List.mem_filter, Option.isNone_iff_eq_none]

theorem exists_walked (catalog : Catalog) (home : String) (view : View) :
    ∃ walk, catalog.Walked home view walk := by
  obtain ⟨walk, hwalks⟩ :=
    catalog.exists_walks (viewReads home view) { visited := [⟨home, view.name⟩] }
  exact ⟨walk, hwalks.walked⟩

end Catalog

end QueryTyping
