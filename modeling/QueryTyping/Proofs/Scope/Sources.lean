import Mathlib.Data.List.Basic
import QueryTyping.Proofs.Scope.Columns

/-!
# The two copies of the columns of a FROM clause

A FROM clause holds its columns twice: by source, for names with a table, and in one list, for names
without. A clause that is made by adding sources, some of which may be refused, holds the same
columns both times: the list consists of the sources one after the other, and a source is the part
of the list that is marked with its name (`Holds`, `holds_run`).

So both ways of looking up a column see the same columns. A name without table stands for a column
if it does so in one source and is unknown in the others, and it is unknown if it is unknown in all
of them (`FromClause.lookups_agree`).
-/

namespace QueryTyping

namespace Query

variable {query : Query} {name : String} {column : QueryColumn}

theorem column_eq_found_iff :
    query.column name = .found column ↔ query.columns.filter (·.name == name) = [column] := by
  unfold Query.column
  cases query.columns.filter (·.name == name) with
  | nil => simp
  | cons first rest =>
    cases rest with
    | nil => simp
    | cons second rest => simp

theorem isNotFound_column_iff_filter :
    (query.column name).isNotFound ↔ query.columns.filter (·.name == name) = [] := by
  rw [isNotFound_column_iff]
  simp [names, List.filter_eq_nil_iff]

end Query

theorem Resolution.isFound_iff {ε α : Type} {resolution : Resolution ε α} :
    resolution.isFound ↔ ∃ value, resolution = .found value := by
  cases resolution <;> simp [isFound]

theorem Resolution.isAmbiguous_iff {ε α : Type} {resolution : Resolution ε α} :
    resolution.isAmbiguous ↔ ¬resolution.isFound ∧ ¬resolution.isNotFound := by
  cases resolution <;> simp [isAmbiguous, isFound, isNotFound]

namespace FromClause

variable {clause next : FromClause} {name : String} {query : Query} {column : QueryColumn}
  {sources : List (String × Query)}

/-! ## Adding sources -/

/-- The clause that is left after a source was offered to it, taken or not. -/
def offer (clause : FromClause) (source : String × Query) : FromClause :=
  (clause.addSource source.1 source.2).2

/-- The clause after some sources were offered to it, one after the other. -/
def run (clause : FromClause) (offers : List (String × Query)) : FromClause :=
  offers.foldl offer clause

/-- The sources that are taken when some are offered, in order. -/
def taken (clause : FromClause) : List (String × Query) → List (String × Query)
  | [] => []
  | source :: offers =>
    if (clause.addSource source.1 source.2).1.isOk then source :: (clause.offer source).taken offers
    else (clause.offer source).taken offers

/-- The names of some sources. -/
def sourceNames (sources : List (String × Query)) : List String := sources.map (·.1)

/-- The columns of a query, each marked with the name of a source and otherwise as it was. -/
def marked (name : String) (query : Query) : List QueryColumn :=
  query.columns.map fun column => { column with source := some name }

/-- The columns of some sources, one source after the other. -/
def markedColumns (sources : List (String × Query)) : List QueryColumn :=
  sources.flatMap fun source => marked source.1 source.2

/-- The columns of the clause that are marked with a name. -/
def columnsOf (clause : FromClause) (name : String) : List QueryColumn :=
  clause.wildcard.columns.filter (·.source == some name)

/-! ## What a clause holds -/

/-- The clause holds the given sources, each of them in both copies. -/
structure Holds (clause : FromClause) (sources : List (String × Query)) : Prop where
  wildcard : clause.wildcard.columns = markedColumns sources
  source? : ∀ name, clause.source? name =
    if name ∈ sourceNames sources then some ⟨clause.columnsOf name⟩ else none

theorem holds_empty : Holds {} [] where
  wildcard := rfl
  source? := fun _ => rfl

theorem filter_marked_self (name : String) (query : Query) :
    (marked name query).filter (·.source == some name) = marked name query := by
  rw [List.filter_eq_self]
  simp [marked]

theorem filter_marked_of_ne {other : String} (h : name ≠ other) (query : Query) :
    (marked name query).filter (·.source == some other) = [] := by
  rw [List.filter_eq_nil_iff]
  simp [marked, h]

/-- Every column is marked with the name of a source. -/
theorem Holds.exists_source (h : clause.Holds sources)
    (hcolumn : column ∈ clause.wildcard.columns) :
    ∃ name ∈ sourceNames sources, column.source = some name := by
  rw [h.wildcard, markedColumns, List.mem_flatMap] at hcolumn
  obtain ⟨source, hsource, hmarked⟩ := hcolumn
  obtain ⟨original, -, rfl⟩ := List.mem_map.mp hmarked
  exact ⟨source.1, List.mem_map_of_mem hsource, rfl⟩

theorem Holds.columnsOf_eq_nil (h : clause.Holds sources) (hname : name ∉ sourceNames sources) :
    clause.columnsOf name = [] := by
  unfold columnsOf
  rw [List.filter_eq_nil_iff]
  intro column hcolumn hmarked
  obtain ⟨other, hother, hsource⟩ := h.exists_source hcolumn
  have heq : other = name := by simpa [hsource] using hmarked
  exact hname (heq ▸ hother)

theorem Holds.contains_iff (h : clause.Holds sources) :
    clause.sources.contains name ↔ name ∈ sourceNames sources := by
  have hsource : clause.sources.contains name = (clause.source? name).isSome := rfl
  rw [hsource, h.source?]
  split <;> simp_all

/-- A source is refused if its name is taken, and the clause is left as it was. -/
theorem Holds.addSource_of_mem (h : clause.Holds sources) (hname : name ∈ sourceNames sources)
    (query : Query) : clause.addSource name query = (.error (.duplicateSource name), clause) := by
  rw [addSource, if_pos (h.contains_iff.mpr hname)]

theorem Holds.exists_addSource (h : clause.Holds sources) (hname : name ∉ sourceNames sources)
    (query : Query) : ∃ next, clause.addSource name query = (.ok (), next) := by
  rw [addSource, if_neg fun hcontains => hname (h.contains_iff.mp hcontains)]
  exact ⟨_, rfl⟩

theorem addSource_ok (h : clause.addSource name query = (.ok (), next)) :
    next.wildcard.columns = clause.wildcard.columns ++ marked name query ∧
      ∀ other, next.source? other =
        if other = name then some ⟨marked name query⟩ else clause.source? other := by
  unfold addSource at h
  split at h
  · cases h
  · cases h
    exact ⟨rfl, fun other => Dictionary.get?_insert ..⟩

/-- A source that is taken comes last, in both copies. -/
theorem Holds.addSource (h : clause.Holds sources) (hname : name ∉ sourceNames sources)
    (hnext : clause.addSource name query = (.ok (), next)) :
    next.Holds (sources ++ [(name, query)]) := by
  obtain ⟨hwildcard, hsource⟩ := addSource_ok hnext
  have hcolumns : ∀ other, next.columnsOf other = clause.columnsOf other ++
      (marked name query).filter (·.source == some other) := by
    intro other
    unfold columnsOf
    rw [hwildcard, List.filter_append]
  refine ⟨by rw [hwildcard, h.wildcard]; simp [markedColumns], fun other => ?_⟩
  have hmem : other ∈ sourceNames (sources ++ [(name, query)]) ↔
      other ∈ sourceNames sources ∨ other = name := by
    simp [sourceNames]
  rw [hsource, hcolumns]
  by_cases hother : other = name
  · -- nothing was marked with the new name before
    subst hother
    rw [if_pos rfl, if_pos (hmem.mpr (Or.inr rfl)), h.columnsOf_eq_nil hname, List.nil_append,
      filter_marked_self]
  · rw [if_neg hother, h.source?, filter_marked_of_ne (Ne.symm hother) query, List.append_nil]
    by_cases hold : other ∈ sourceNames sources
    · rw [if_pos hold, if_pos (hmem.mpr (Or.inl hold))]
    · rw [if_neg hold, if_neg]
      rw [hmem]
      exact not_or.mpr ⟨hold, hother⟩

theorem offer_eq {answer : Except TypeError Unit}
    (h : clause.addSource name query = (answer, next)) : clause.offer (name, query) = next := by
  rw [offer, h]

/-- After any offers, the clause holds what was taken of them behind what it held before. -/
theorem Holds.run (h : clause.Holds sources) (offers : List (String × Query)) :
    (clause.run offers).Holds (sources ++ clause.taken offers) := by
  induction offers generalizing clause sources with
  | nil => rwa [taken, List.append_nil]
  | cons source offers ih =>
    obtain ⟨name, query⟩ := source
    show ((clause.offer (name, query)).run offers).Holds _
    by_cases hname : name ∈ sourceNames sources
    · have hrefused := h.addSource_of_mem hname query
      rw [taken, hrefused, offer_eq hrefused]
      exact ih h
    · obtain ⟨next, hnext⟩ := h.exists_addSource hname query
      rw [taken, hnext, offer_eq hnext]
      have hrun := ih (h.addSource hname hnext)
      rwa [List.append_assoc] at hrun

theorem holds_run (offers : List (String × Query)) : (run {} offers).Holds (taken {} offers) :=
  holds_empty.run offers

/-! ## Looking up columns -/

/-- What the name of a column stands for in one source. -/
def columnIn (clause : FromClause) (source name : String) : Lookup QueryColumn :=
  clause.column ⟨some ⟨none, source⟩, name⟩

/-- The name stands for a column in one source, and for nothing in the others. -/
def KnownOnlyIn (clause : FromClause) (sources : List String) (source name : String) : Prop :=
  (clause.columnIn source name).isFound ∧
    ∀ other ∈ sources, other ≠ source → (clause.columnIn other name).isNotFound

/-- The columns of a name, in the order of the clause. -/
def columnsNamed (clause : FromClause) (name : String) : List QueryColumn :=
  clause.wildcard.columns.filter (·.name == name)

theorem filter_columnsOf (clause : FromClause) (source name : String) :
    (clause.columnsOf source).filter (·.name == name) =
      (clause.columnsNamed name).filter (·.source == some source) := by
  unfold columnsOf columnsNamed
  rw [List.filter_comm]

theorem column_eq_found_iff :
    clause.column ⟨none, name⟩ = .found column ↔ clause.columnsNamed name = [column] :=
  Query.column_eq_found_iff

theorem isNotFound_column_iff :
    (clause.column ⟨none, name⟩).isNotFound ↔ clause.columnsNamed name = [] :=
  Query.isNotFound_column_iff_filter

section Holds

variable {source : String} (h : clause.Holds sources)
include h

/-- In a source a name is looked up among the columns that are marked with the source. -/
theorem Holds.columnIn_eq (hsource : source ∈ sourceNames sources) :
    clause.columnIn source name = (Query.mk (clause.columnsOf source)).column name := by
  have hfound : clause.source? source = some ⟨clause.columnsOf source⟩ := by
    rw [h.source?, if_pos hsource]
  simp [columnIn, FromClause.column, table, hfound, Resolution.andThen]

theorem Holds.columnIn_eq_found_iff (hsource : source ∈ sourceNames sources) :
    clause.columnIn source name = .found column ↔
      (clause.columnsNamed name).filter (·.source == some source) = [column] := by
  rw [h.columnIn_eq hsource, Query.column_eq_found_iff, filter_columnsOf]

theorem Holds.isNotFound_columnIn_iff (hsource : source ∈ sourceNames sources) :
    (clause.columnIn source name).isNotFound ↔
      ∀ column ∈ clause.columnsNamed name, column.source ≠ some source := by
  rw [h.columnIn_eq hsource, Query.isNotFound_column_iff_filter, filter_columnsOf,
    List.filter_eq_nil_iff]
  simp

theorem Holds.exists_source_of_named (hcolumn : column ∈ clause.columnsNamed name) :
    ∃ source ∈ sourceNames sources, column.source = some source :=
  h.exists_source (List.mem_filter.mp hcolumn).1

/-- A column that is found without its table is found in its source, and nowhere else. -/
theorem Holds.columnIn_of_column (hfound : clause.column ⟨none, name⟩ = .found column) :
    ∃ source ∈ sourceNames sources, column.source = some source ∧
      clause.columnIn source name = .found column ∧
      clause.KnownOnlyIn (sourceNames sources) source name := by
  have hnamed := column_eq_found_iff.mp hfound
  have hcolumn : column ∈ clause.columnsNamed name := by simp [hnamed]
  obtain ⟨source, hmem, hsource⟩ := h.exists_source_of_named hcolumn
  have hin : clause.columnIn source name = .found column := by
    rw [h.columnIn_eq_found_iff hmem, hnamed]
    simp [hsource]
  refine ⟨source, hmem, hsource, hin, by rw [hin]; rfl, fun other hother hne => ?_⟩
  rw [h.isNotFound_columnIn_iff hother, hnamed]
  simpa [hsource] using hne.symm

/-- A name that stands for a column in one source only stands for it without the source too. -/
theorem Holds.column_of_knownOnlyIn (hmem : source ∈ sourceNames sources)
    (hsource : clause.KnownOnlyIn (sourceNames sources) source name) :
    (clause.column ⟨none, name⟩).isFound := by
  obtain ⟨hin, hothers⟩ := hsource
  obtain ⟨column, hin⟩ := Resolution.isFound_iff.mp hin
  -- every column of the name is marked with this source
  have hall : ∀ column ∈ clause.columnsNamed name, column.source = some source := by
    intro column hcolumn
    obtain ⟨other, hother, heq⟩ := h.exists_source_of_named hcolumn
    by_cases hne : other = source
    · rw [heq, hne]
    · have hnone := (h.isNotFound_columnIn_iff hother).mp (hothers other hother hne)
      exact (hnone column hcolumn heq).elim
  have hnamed : clause.columnsNamed name = [column] := by
    rw [← (h.columnIn_eq_found_iff hmem).mp hin, eq_comm, List.filter_eq_self]
    intro column hcolumn
    simp [hall column hcolumn]
  exact Resolution.isFound_iff.mpr ⟨column, column_eq_found_iff.mpr hnamed⟩

theorem Holds.isFound_column_iff :
    (clause.column ⟨none, name⟩).isFound ↔
      ∃ source ∈ sourceNames sources, clause.KnownOnlyIn (sourceNames sources) source name := by
  constructor
  · intro hfound
    obtain ⟨column, hcolumn⟩ := Resolution.isFound_iff.mp hfound
    obtain ⟨source, hmem, -, -, hsource⟩ := h.columnIn_of_column hcolumn
    exact ⟨source, hmem, hsource⟩
  · rintro ⟨source, hmem, hsource⟩
    exact h.column_of_knownOnlyIn hmem hsource

theorem Holds.isNotFound_column_iff :
    (clause.column ⟨none, name⟩).isNotFound ↔
      ∀ source ∈ sourceNames sources, (clause.columnIn source name).isNotFound := by
  rw [FromClause.isNotFound_column_iff, List.eq_nil_iff_forall_not_mem]
  constructor
  · intro hnone source hmem
    rw [h.isNotFound_columnIn_iff hmem]
    exact fun column hcolumn => (hnone column hcolumn).elim
  · intro hnone column hcolumn
    obtain ⟨source, hmem, hsource⟩ := h.exists_source_of_named hcolumn
    exact (h.isNotFound_columnIn_iff hmem).mp (hnone source hmem) column hcolumn hsource

end Holds

/-- After any offers to an empty clause:

* a source is refused exactly if one of its name was taken before, and then the clause is left as
  it was;
* the columns are those of the sources that were taken, in that order, each marked with its source
  and otherwise unchanged, and a source is the part of them that is marked with its name;
* a name stands for a column exactly if it does so in one source and for nothing in the others, and
  then it stands for the same column there; it stands for nothing exactly if it does so in every
  source; otherwise it is ambiguous. -/
theorem lookups_agree (offers : List (String × Query)) :
    let clause := run {} offers
    let names := sourceNames (taken {} offers)
    (∀ name query,
      ((∃ error, (clause.addSource name query).1 = .error error) ↔ name ∈ names) ∧
      (name ∈ names → clause.addSource name query = (.error (.duplicateSource name), clause))) ∧
    clause.wildcard.columns = markedColumns (taken {} offers) ∧
    (∀ name, clause.source? name =
      if name ∈ names then some ⟨clause.wildcard.columns.filter (·.source == some name)⟩
      else none) ∧
    ∀ name,
      ((clause.column ⟨none, name⟩).isFound ↔
        ∃ source ∈ names, clause.KnownOnlyIn names source name) ∧
      (∀ column, clause.column ⟨none, name⟩ = .found column →
        ∃ source ∈ names, column.source = some source ∧
          clause.columnIn source name = .found column) ∧
      ((clause.column ⟨none, name⟩).isNotFound ↔
        ∀ source ∈ names, (clause.columnIn source name).isNotFound) ∧
      ((clause.column ⟨none, name⟩).isAmbiguous ↔
        (¬∃ source ∈ names, clause.KnownOnlyIn names source name) ∧
          ¬∀ source ∈ names, (clause.columnIn source name).isNotFound) := by
  intro clause names
  have h : clause.Holds (taken {} offers) := holds_run offers
  refine ⟨fun name query => ⟨⟨?_, ?_⟩, ?_⟩, h.wildcard, h.source?, fun name => ?_⟩
  · rintro ⟨error, herror⟩
    by_contra hname
    obtain ⟨next, hnext⟩ := h.exists_addSource hname query
    rw [hnext] at herror
    cases herror
  · intro hname
    exact ⟨_, congrArg Prod.fst (h.addSource_of_mem hname query)⟩
  · exact fun hname => h.addSource_of_mem hname query
  · refine ⟨h.isFound_column_iff, fun column hcolumn => ?_, h.isNotFound_column_iff, ?_⟩
    · obtain ⟨source, hmem, hsource, hin, -⟩ := h.columnIn_of_column hcolumn
      exact ⟨source, hmem, hsource, hin⟩
    · rw [Resolution.isAmbiguous_iff, h.isFound_column_iff, h.isNotFound_column_iff]

/-- Two sources with a column `x`, one of them offered again with a column `z`, and one without
columns. -/
theorem lookups_agree_after_refusal :
    let x : QueryColumn := { name := "x", type := .column (.notNull .integer) }
    let y : QueryColumn := { name := "y", type := .var 0, primaryKey := true }
    let z : QueryColumn := { name := "z", type := .var 1 }
    let clause := run {} [("a", ⟨[x, y]⟩), ("b", ⟨[x]⟩), ("a", ⟨[z]⟩), ("c", {})]
    clause.wildcard.columns = [{ x with source := some "a" }, { y with source := some "a" },
        { x with source := some "b" }] ∧
      clause.addSource "b" ⟨[z]⟩ = (.error (.duplicateSource "b"), clause) ∧
      clause.source? "c" = some {} ∧
      (clause.column ⟨none, "x"⟩).isAmbiguous ∧
      clause.columnIn "a" "y" = .found { y with source := some "a" } ∧
      (clause.column ⟨none, "z"⟩).isNotFound := by
  intro x y z clause
  let offers : List (String × Query) := [("a", ⟨[x, y]⟩), ("b", ⟨[x]⟩), ("a", ⟨[z]⟩), ("c", {})]
  have htaken : taken {} offers = [("a", ⟨[x, y]⟩), ("b", ⟨[x]⟩), ("c", {})] := by decide +kernel
  have hnames : sourceNames (taken {} offers) = ["a", "b", "c"] := by
    rw [htaken]
    rfl
  obtain ⟨hoffer, hwildcard, hsource, hcolumn⟩ := lookups_agree offers
  have hcolumns : clause.wildcard.columns = [{ x with source := some "a" },
      { y with source := some "a" }, { x with source := some "b" }] := by
    rw [hwildcard, htaken]
    rfl
  refine ⟨hcolumns, ?_, ?_, ?_, ?_, ?_⟩
  · exact (hoffer "b" ⟨[z]⟩).2 (by rw [hnames]; decide)
  · rw [hsource, hnames, hcolumns]
    decide
  · have hknown : (clause.columnIn "a" "x").isNotFound = false ∧
        (clause.columnIn "b" "x").isNotFound = false := by
      decide +kernel
    obtain ⟨ha, hb⟩ := hknown
    rw [(hcolumn "x").2.2.2, hnames]
    constructor
    · rintro ⟨source, -, -, hothers⟩
      by_cases hsource : source = "a"
      · have hother := hothers "b" (by decide) (by rw [hsource]; decide)
        exact Bool.false_ne_true (hb.symm.trans hother)
      · have hother := hothers "a" (by decide) (Ne.symm hsource)
        exact Bool.false_ne_true (ha.symm.trans hother)
    · intro hall
      exact Bool.false_ne_true (ha.symm.trans (hall "a" (by decide)))
  · have hfound : clause.column ⟨none, "y"⟩ = .found { y with source := some "a" } := by
      decide +kernel
    obtain ⟨source, -, hsource, hin⟩ := (hcolumn "y").2.1 _ hfound
    cases hsource
    exact hin
  · rw [(hcolumn "z").2.2.1, hnames]
    decide +kernel

end FromClause

end QueryTyping
