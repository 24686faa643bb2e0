import QueryTyping.Scope.Columns

/-!
# Columns through the levels of a scope

What a scope knows of a column name is what the innermost level knows that knows anything at all
(`Scope.column_eq_innermost`). A name that is ambiguous at a level is ambiguous, whatever stands
around it; further levels around a scope change no answer but that nothing was found; suggestions
change no answer at all; and a name with a schema is ambiguous wherever there is a FROM clause.

What a level knows is said by cases in `Level.outcome`: the names of the SELECT list come first, and
only those of the list.
-/

namespace QueryTyping

namespace Resolution

variable {ε α : Type} {resolution : Resolution ε α}

/-- The outcome without the reason why a look-up failed. -/
def answer : Resolution ε α → Resolution Unit α
  | found value => found value
  | notFound _ => notFound ()
  | ambiguous _ => ambiguous ()

theorem orElse_of_known (h : ¬resolution.isNotFound) (f : ε → Resolution ε α) :
    resolution.orElse f = resolution := by
  cases resolution with
  | found value => rfl
  | notFound problem => exact absurd rfl h
  | ambiguous problem => rfl

theorem orElse_of_isNotFound (h : resolution.isNotFound) (other : Resolution ε α) :
    (resolution.orElse fun _ => other) = other := by
  cases resolution with
  | found value => cases h
  | notFound problem => rfl
  | ambiguous problem => cases h

theorem mapNotFound_of_known (h : ¬resolution.isNotFound) (f : ε → ε) :
    resolution.mapNotFound f = resolution := by
  cases resolution with
  | found value => rfl
  | notFound problem => exact absurd rfl h
  | ambiguous problem => rfl

theorem isNotFound_mapNotFound (f : ε → ε) :
    (resolution.mapNotFound f).isNotFound = resolution.isNotFound := by
  cases resolution <;> rfl

theorem answer_mapNotFound (f : ε → ε) : (resolution.mapNotFound f).answer = resolution.answer := by
  cases resolution <;> rfl

theorem not_isNotFound_of_isAmbiguous (h : resolution.isAmbiguous) : ¬resolution.isNotFound := by
  cases resolution with
  | found value => cases h
  | notFound problem => cases h
  | ambiguous problem => exact Bool.false_ne_true

end Resolution

theorem Query.isNotFound_column_iff {query : Query} {name : String} :
    (query.column name).isNotFound ↔ name ∉ query.names := by
  have hfilter : query.columns.filter (·.name == name) = [] ↔ name ∉ query.names := by
    simp [Query.names, List.filter_eq_nil_iff]
  rw [← hfilter, Query.column]
  cases query.columns.filter (·.name == name) with
  | nil => simp [Resolution.isNotFound]
  | cons first rest =>
    cases rest with
    | nil => simp [Resolution.isNotFound]
    | cons second rest => simp [Resolution.isNotFound]

/-! ## One level -/

namespace Level

/-- What a level knows of a column name. The SELECT list decides if the name has no table and is a
name of the list; otherwise the FROM clause does, if there is one. -/
def outcome (level : Level) (name : ColumnName) : Lookup QueryColumn :=
  match level.selectList.filter fun list => name.table.isNone && name.column ∈ list.names with
  | some list => list.column name.column
  | none =>
    match level.fromClause with
    | some clause => clause.column name
    | none => .notFound ⟨.noFromClause name, []⟩

/-- The clauses of a level, in which column names are looked up. -/
def clauses (level : Level) : Option Query × Option FromClause :=
  (level.selectList, level.fromClause)

theorem column_eq_outcome (level : Level) (name : ColumnName) :
    level.column name = level.outcome name := by
  have hfrom : level.columnInFrom name =
      match level.fromClause with
      | some clause => clause.column name
      | none => .notFound ⟨.noFromClause name, []⟩ := rfl
  unfold column columnInSelect outcome
  rw [← hfrom]
  cases htable : name.table with
  | some table => cases level.selectList <;> rfl
  | none =>
    cases level.selectList with
    | none => simp
    | some list =>
      by_cases hmem : name.column ∈ list.names
      · have hknown : ¬(list.column name.column).isNotFound := by
          rw [Query.isNotFound_column_iff]
          simpa using hmem
        simp [Option.filter_some, hmem, Resolution.orElse_of_known hknown]
      · have hnone := Query.isNotFound_column_iff.mpr hmem
        simp [Option.filter_some, hmem, Resolution.orElse_of_isNotFound hnone]

theorem outcome_congr {level other : Level} (h : level.clauses = other.clauses)
    (name : ColumnName) : level.outcome name = other.outcome name := by
  obtain ⟨hselect, hfrom⟩ := Prod.mk.inj h
  unfold outcome
  rw [hselect, hfrom]

/-- The sources of a FROM clause belong to no schema. -/
theorem outcome_of_schema (level : Level) {name : ColumnName} {table : ObjectName}
    {schema : String} (htable : name.table = some table) (hschema : table.schema = some schema) :
    ((level.outcome name).isAmbiguous ↔ level.fromClause.isSome) ∧
      ((level.outcome name).isNotFound ↔ level.fromClause = none) := by
  have hlist : (level.selectList.filter fun list =>
      name.table.isNone && name.column ∈ list.names) = none := by
    simp [htable]
  unfold outcome
  rw [hlist]
  cases level.fromClause with
  | none => simp [Resolution.isAmbiguous, Resolution.isNotFound]
  | some clause =>
    simp [FromClause.column, htable, FromClause.table, hschema, Resolution.andThen,
      Resolution.isAmbiguous, Resolution.isNotFound]

end Level

/-! ## All levels -/

namespace Scope

variable {name : ColumnName} {level : Level} {inner outer enclosing : List Level}

theorem columnAtLevels_cons (next : Level) :
    columnAtLevels name level (next :: enclosing) =
      (level.outcome name).orElse fun _ => columnAtLevels name next enclosing := by
  rw [columnAtLevels, Level.column_eq_outcome]

/-- A level that knows the name decides. -/
theorem columnAtLevels_of_known (h : ¬(level.outcome name).isNotFound) :
    columnAtLevels name level enclosing = level.outcome name := by
  cases enclosing with
  | nil => rw [columnAtLevels, Level.column_eq_outcome]
  | cons next rest => rw [columnAtLevels_cons, Resolution.orElse_of_known h]

/-- Levels that do not know the name are passed over. -/
theorem columnAtLevels_append {first : Level}
    (hinner : ∀ l ∈ first :: inner, (l.outcome name).isNotFound) :
    columnAtLevels name first (inner ++ level :: outer) = columnAtLevels name level outer := by
  induction inner generalizing first with
  | nil =>
    rw [List.nil_append, columnAtLevels_cons,
      Resolution.orElse_of_isNotFound (hinner first List.mem_cons_self)]
  | cons next inner ih =>
    rw [List.cons_append, columnAtLevels_cons,
      Resolution.orElse_of_isNotFound (hinner first List.mem_cons_self)]
    exact ih fun l hl => hinner l (List.mem_cons_of_mem _ hl)

theorem isNotFound_columnAtLevels_iff :
    (columnAtLevels name level enclosing).isNotFound ↔
      ∀ l ∈ level :: enclosing, (l.outcome name).isNotFound := by
  induction enclosing generalizing level with
  | nil => simp [columnAtLevels, Level.column_eq_outcome]
  | cons next rest ih =>
    rw [columnAtLevels_cons, List.forall_mem_cons, ← ih]
    by_cases h : (level.outcome name).isNotFound
    · rw [Resolution.orElse_of_isNotFound h]
      simp [h]
    · rw [Resolution.orElse_of_known h]
      simp [h]

theorem isNotFound_column_iff (scope : Scope) (name : ColumnName) :
    (scope.column name).isNotFound ↔
      ∀ level ∈ scope.levels, (level.outcome name).isNotFound := by
  rw [column, Resolution.isNotFound_mapNotFound, isNotFound_columnAtLevels_iff, levels]

/-- The innermost level that knows the name decides. -/
theorem column_of_known (scope : Scope) (hlevels : scope.levels = inner ++ level :: outer)
    (hinner : ∀ l ∈ inner, (l.outcome name).isNotFound)
    (hlevel : ¬(level.outcome name).isNotFound) : scope.column name = level.outcome name := by
  have hchain : columnAtLevels name scope.innermost scope.enclosing = level.outcome name := by
    cases inner with
    | nil =>
      obtain ⟨hfirst, -⟩ := List.cons.inj hlevels
      rw [hfirst]
      exact columnAtLevels_of_known hlevel
    | cons first inner =>
      obtain ⟨hfirst, henclosing⟩ := List.cons.inj (hlevels.trans List.cons_append)
      rw [hfirst, henclosing, columnAtLevels_append hinner]
      exact columnAtLevels_of_known hlevel
  rw [column, hchain, Resolution.mapNotFound_of_known hlevel]

/-- A scope in which something is known has an innermost level that knows it. -/
theorem exists_known (scope : Scope) (h : ¬(scope.column name).isNotFound) :
    ∃ inner level outer, scope.levels = inner ++ level :: outer ∧
      (∀ l ∈ inner, (l.outcome name).isNotFound) ∧
      ¬(level.outcome name).isNotFound := by
  rw [isNotFound_column_iff] at h
  generalize scope.levels = levels at h ⊢
  induction levels with
  | nil => simp at h
  | cons first rest ih =>
    by_cases hfirst : (first.outcome name).isNotFound
    · have hrest : ¬∀ level ∈ rest, (level.outcome name).isNotFound = true := fun hall =>
        h (List.forall_mem_cons.mpr ⟨hfirst, hall⟩)
      obtain ⟨inner, level, outer, rfl, hinner, hlevel⟩ := ih hrest
      exact ⟨first :: inner, level, outer, rfl, List.forall_mem_cons.mpr ⟨hfirst, hinner⟩, hlevel⟩
    · exact ⟨[], first, rest, rfl, by simp, hfirst⟩

/-- Only the clauses of the levels count. -/
theorem columnAtLevels_congr {level' : Level} {enclosing' : List Level}
    (h : (level :: enclosing).map Level.clauses = (level' :: enclosing').map Level.clauses) :
    columnAtLevels name level enclosing = columnAtLevels name level' enclosing' := by
  induction enclosing generalizing level level' enclosing' with
  | nil =>
    obtain ⟨hlevel, hrest⟩ := List.cons.inj h
    obtain rfl := List.map_eq_nil_iff.mp hrest.symm
    simp only [columnAtLevels, Level.column_eq_outcome, Level.outcome_congr hlevel]
  | cons next rest ih =>
    obtain ⟨hlevel, hrest⟩ := List.cons.inj h
    cases enclosing' with
    | nil => cases hrest
    | cons next' rest' =>
      rw [columnAtLevels_cons, columnAtLevels_cons, Level.outcome_congr hlevel, ih hrest]

theorem answer_column_congr {scope other : Scope}
    (h : other.levels.map Level.clauses = scope.levels.map Level.clauses) (name : ColumnName) :
    (other.column name).answer = (scope.column name).answer := by
  rw [column, column, Resolution.answer_mapNotFound, Resolution.answer_mapNotFound,
    columnAtLevels_congr h]

theorem isAmbiguous_column_of_schema (scope : Scope) {table : ObjectName} {schema : String}
    (htable : name.table = some table) (hschema : table.schema = some schema) :
    (scope.column name).isAmbiguous ↔ ∃ level ∈ scope.levels, level.fromClause.isSome := by
  have hnone (level : Level) := (level.outcome_of_schema htable hschema).2
  constructor
  · intro h
    obtain ⟨inner, level, outer, hlevels, -, hlevel⟩ :=
      scope.exists_known (Resolution.not_isNotFound_of_isAmbiguous h)
    refine ⟨level, by simp [hlevels], ?_⟩
    rwa [hnone, ← ne_eq, Option.ne_none_iff_isSome] at hlevel
  · rintro ⟨read, hread, hsome⟩
    have hknown : ¬(scope.column name).isNotFound := by
      rw [isNotFound_column_iff]
      intro hall
      rw [(hnone read).mp (hall read hread)] at hsome
      cases hsome
    obtain ⟨inner, level, outer, hlevels, hinner, hlevel⟩ := scope.exists_known hknown
    rw [scope.column_of_known hlevels hinner hlevel,
      (level.outcome_of_schema htable hschema).1, ← Option.ne_none_iff_isSome, ne_eq, ← hnone]
    exact hlevel

/-- The same scope inside further queries. -/
def enclosedBy (scope : Scope) (outer : List Level) : Scope :=
  { scope with enclosing := scope.enclosing ++ outer }

theorem column_enclosedBy (scope : Scope) (h : ¬(scope.column name).isNotFound)
    (outer : List Level) : (scope.enclosedBy outer).column name = scope.column name := by
  obtain ⟨inner, level, rest, hlevels, hinner, hlevel⟩ := scope.exists_known h
  have hlevels' : (scope.enclosedBy outer).levels = inner ++ level :: (rest ++ outer) := by
    show scope.levels ++ outer = _
    rw [hlevels, List.append_assoc, List.cons_append]
  rw [scope.column_of_known hlevels hinner hlevel,
    (scope.enclosedBy outer).column_of_known hlevels' hinner hlevel]

/-- What a column name stands for is what the innermost level knows that knows anything: the levels
outside it do not count, not even for a name that is ambiguous there, and nothing is found only if
no level knows anything. So levels around a scope in which something is known change nothing; the
catalog, the common table expressions and the settings for suggestions, of any level, decide neither
the kind of answer nor the column; and a name with a schema is ambiguous if any level has a FROM
clause, and is not found otherwise. -/
theorem column_eq_innermost (scope : Scope) (name : ColumnName) :
    (∀ inner level outer, scope.levels = inner ++ level :: outer →
      (∀ l ∈ inner, (l.outcome name).isNotFound) → ¬(level.outcome name).isNotFound →
      scope.column name = level.outcome name) ∧
    ((scope.column name).isNotFound ↔
      ∀ level ∈ scope.levels, (level.outcome name).isNotFound) ∧
    (∀ outer, ¬(scope.column name).isNotFound →
      (scope.enclosedBy outer).column name = scope.column name) ∧
    (∀ other : Scope, other.levels.map Level.clauses = scope.levels.map Level.clauses →
      (other.column name).answer = (scope.column name).answer) ∧
    ∀ table schema, name.table = some table → table.schema = some schema →
      ((scope.column name).isAmbiguous ↔ ∃ level ∈ scope.levels, level.fromClause.isSome) ∧
      ((scope.column name).isNotFound ↔ ∀ level ∈ scope.levels, level.fromClause = none) := by
  refine ⟨?innermost, scope.isNotFound_column_iff name, ?enclosed, ?clauses, ?schema⟩
  case innermost =>
    intro inner level outer hlevels hinner hlevel
    exact scope.column_of_known hlevels hinner hlevel
  case enclosed =>
    intro outer h
    exact scope.column_enclosedBy h outer
  case clauses =>
    intro other h
    exact answer_column_congr h name
  case schema =>
    intro table schema htable hschema
    refine ⟨scope.isAmbiguous_column_of_schema htable hschema, ?_⟩
    simp only [isNotFound_column_iff, fun level => (Level.outcome_of_schema level htable hschema).2]

/-- A query without clauses, inside one that reads the column `x` of two sources, inside one whose
SELECT list names one column `x`. -/
theorem column_eq_innermost_of_nested :
    let x : QueryColumn := { name := "x", type := .column ⟨false, .integer⟩ }
    let reading : Level :=
      { fromClause := some ((FromClause.addSource {} "a" ⟨[x]⟩).2.addSource "b" ⟨[x]⟩).2 }
    let naming : Level := { selectList := some ⟨[x]⟩ }
    let scope : Scope := { catalog := .new "main", enclosing := [reading, naming] }
    scope.column ⟨none, "x"⟩ = .ambiguous ⟨.eitherColumn "x" "a.x" "b.x", []⟩ ∧
      naming.outcome ⟨none, "x"⟩ = .found x ∧
      scope.column ⟨some ⟨none, "b"⟩, "x"⟩ = .found { x with source := some "b" } ∧
      (scope.column ⟨some ⟨some "main", "b"⟩, "x"⟩).isAmbiguous ∧
      (scope.column ⟨none, "z"⟩).isNotFound := by
  intro x reading naming scope
  have hknown (name : ColumnName) (hfirst : (Level.outcome {} name).isNotFound)
      (h : ¬(reading.outcome name).isNotFound) : scope.column name = reading.outcome name :=
    (column_eq_innermost scope name).1 [{}] reading [naming] rfl (by simpa using hfirst) h
  refine ⟨?_, by decide +kernel, ?_, ?_, ?_⟩
  · rw [hknown ⟨none, "x"⟩ (by decide +kernel) (by decide +kernel)]
    decide +kernel
  · rw [hknown ⟨some ⟨none, "b"⟩, "x"⟩ (by decide +kernel) (by decide +kernel)]
    decide +kernel
  · have hschema := (column_eq_innermost scope ⟨some ⟨some "main", "b"⟩, "x"⟩).2.2.2.2
    refine ((hschema _ _ rfl rfl).1).mpr ⟨reading, by simp [levels, scope], by decide +kernel⟩
  · rw [(column_eq_innermost scope ⟨none, "z"⟩).2.1]
    decide +kernel

end Scope

end QueryTyping
