import Mathlib.Data.List.Perm.Basic
import Mathlib.Data.Set.Subsingleton
import QueryTyping.Proofs.Inference.Concrete
import QueryTyping.Proofs.Inference.Meet

/-!
# Sets of alternatives

What is known about a value before it has a column type is a set of column types, one of which it
has. Two such sets that describe the same value leave the meets of their members
(`ColumnType.meets`). Column types meet like the elements of a commutative monoid in which some
products are missing, so in whatever order sets are met, the same is left of them
(`ColumnType.meetAll_perm`).

The list that is kept of such a set has an order, which depends on the order of the meets. Only the
first member of the list shows it, and not if there is but one
(`InferredType.concrete_eq_of_options_eq`).
-/

namespace QueryTyping

theorem CoreType.meet_assoc (k l m : CoreType) :
    (k.meet l).bind (·.meet m) = (l.meet m).bind k.meet := by
  cases k <;> cases l <;> cases m <;> rfl

theorem CoreType.any_meet (k : CoreType) : CoreType.any.meet k = some k := by
  cases k <;> rfl

namespace ColumnType

theorem meet_assoc (k l m : ColumnType) :
    (k.meet l).bind (·.meet m) = (l.meet m).bind k.meet := by
  have hcore := CoreType.meet_assoc k.core l.core m.core
  have hleft : (k.meet l).bind (·.meet m) = ((k.core.meet l.core).bind (·.meet m.core)).map
      (⟨k.nullable || l.nullable || m.nullable, ·⟩) := by
    rw [Option.map_bind]
    exact Option.bind_map ..
  have hright : (l.meet m).bind k.meet = ((l.core.meet m.core).bind k.core.meet).map
      (⟨k.nullable || (l.nullable || m.nullable), ·⟩) := by
    rw [Option.map_bind]
    exact Option.bind_map ..
  rw [hleft, hright, hcore, Bool.or_assoc]

theorem notNull_any_meet (k : ColumnType) : (notNull .any).meet k = some k := by
  rw [meet_eq_some_iff]
  exact ⟨CoreType.any_meet k.core, rfl⟩

/-! ## Meets of sets -/

/-- The meets of the members of two sets. -/
def meets (A B : Set ColumnType) : Set ColumnType := {m | ∃ a ∈ A, ∃ b ∈ B, a.meet b = some m}

theorem meets_comm (A B : Set ColumnType) : meets A B = meets B A := by
  ext m
  constructor
  · rintro ⟨a, ha, b, hb, hm⟩
    exact ⟨b, hb, a, ha, by rw [meet_comm, hm]⟩
  · rintro ⟨b, hb, a, ha, hm⟩
    exact ⟨a, ha, b, hb, by rw [meet_comm, hm]⟩

theorem meets_assoc (A B C : Set ColumnType) : meets (meets A B) C = meets A (meets B C) := by
  ext m
  constructor
  · rintro ⟨ab, ⟨a, ha, b, hb, hab⟩, c, hc, hm⟩
    have hassoc : (b.meet c).bind a.meet = some m := by
      rw [← meet_assoc, hab, Option.bind_some, hm]
    obtain ⟨bc, hbc, hm⟩ := Option.bind_eq_some_iff.mp hassoc
    exact ⟨a, ha, bc, ⟨b, hb, c, hc, hbc⟩, hm⟩
  · rintro ⟨a, ha, bc, ⟨b, hb, c, hc, hbc⟩, hm⟩
    have hassoc : (a.meet b).bind (·.meet c) = some m := by
      rw [meet_assoc, hbc, Option.bind_some, hm]
    obtain ⟨ab, hab, hm⟩ := Option.bind_eq_some_iff.mp hassoc
    exact ⟨ab, ⟨a, ha, b, hb, hab⟩, c, hc, hm⟩

instance : RightCommutative meets :=
  ⟨fun A B C => by rw [meets_assoc, meets_comm B C, ← meets_assoc]⟩

/-- A value that may have any type but null has no fewer types for it. -/
theorem meets_notNull_any (A : Set ColumnType) : meets {notNull .any} A = A := by
  ext m
  constructor
  · rintro ⟨_, rfl, a, ha, hm⟩
    rw [notNull_any_meet, Option.some.injEq] at hm
    exact hm ▸ ha
  · intro hm
    exact ⟨_, rfl, m, hm, notNull_any_meet m⟩

theorem meets_subsingleton {A B : Set ColumnType} (hA : A.Subsingleton) (hB : B.Subsingleton) :
    (meets A B).Subsingleton := by
  rintro m ⟨a, ha, b, hb, hm⟩ m' ⟨a', ha', b', hb', hm'⟩
  rw [hA ha ha', hB hb hb', hm'] at hm
  exact (Option.some.inj hm).symm

/-- What is left of a set after it was met with others, one after the other. -/
def meetAll (A : Set ColumnType) (sets : List (Set ColumnType)) : Set ColumnType :=
  sets.foldl meets A

@[simp] theorem meetAll_cons (A B : Set ColumnType) (sets : List (Set ColumnType)) :
    meetAll A (B :: sets) = meetAll (meets A B) sets := rfl

/-- The order of the sets makes no difference. -/
theorem meetAll_perm (A : Set ColumnType) {sets sets' : List (Set ColumnType)}
    (h : sets.Perm sets') : meetAll A sets = meetAll A sets' :=
  h.foldl_eq A

theorem nonempty_of_meetAll {A : Set ColumnType} {sets : List (Set ColumnType)}
    (h : (meetAll A sets).Nonempty) : A.Nonempty := by
  induction sets generalizing A with
  | nil => exact h
  | cons B sets ih =>
    obtain ⟨m, a, ha, -⟩ := ih h
    exact ⟨a, ha⟩

theorem meetAll_subsingleton {A : Set ColumnType} {sets : List (Set ColumnType)}
    (hA : A.Subsingleton) (h : ∀ B ∈ sets, B.Subsingleton) : (meetAll A sets).Subsingleton := by
  induction sets generalizing A with
  | nil => exact hA
  | cons B sets ih =>
    have hB := h B List.mem_cons_self
    exact ih (meets_subsingleton hA hB) fun C hC => h C (List.mem_cons_of_mem B hC)

end ColumnType

/-! ## The sets of types -/

namespace InferredType

variable {l r m : InferredType}

/-- The set of the column types that a type may be, if it is neither a variable nor a cast. -/
def options (ty : InferredType) : Set ColumnType := {column | column ∈ ty.alternatives}

theorem options_meet (h : l.meet r = some m) :
    m.options = ColumnType.meets l.options r.options := by
  ext column
  exact mem_alternatives_meet h

/-- Types have something in common exactly if two of their alternatives go together. -/
theorem exists_meet_iff :
    (∃ m, l.meet r = some m) ↔ (ColumnType.meets l.options r.options).Nonempty := by
  constructor
  · rintro ⟨m, hm⟩
    obtain ⟨column, hcolumn⟩ := List.exists_mem_of_ne_nil _ (meet_alternatives_ne_nil hm)
    exact ⟨column, options_meet hm ▸ hcolumn⟩
  · rintro ⟨column, a, ha, a', ha', hmeet⟩
    exact exists_meet ha ha' hmeet

theorem options_column (column : ColumnType) : (InferredType.column column).options = {column} := by
  ext other
  exact List.mem_singleton

theorem concrete_of_options_eq_singleton (b : Bindings) {column : ColumnType} (hl : l.IsEnd)
    (h : l.options = {column}) : b.concrete l = column := by
  have hmem : ∀ other, other ∈ l.alternatives ↔ other = column := fun other =>
    Set.ext_iff.mp h other
  rcases hl with ⟨only, rfl⟩ | ⟨alternatives, rfl⟩
  · rw [Bindings.concrete_column]
    exact (hmem only).mp (List.mem_singleton_self only)
  · rw [Bindings.concrete_oneOf]
    cases alternatives with
    | nil => exact absurd ((hmem column).mpr rfl) List.not_mem_nil
    | cons first rest => exact (hmem first).mp List.mem_cons_self

theorem concrete_of_options_eq_empty (b : Bindings) (hl : l.IsEnd) (h : l.options = ∅) :
    b.concrete l = .unknown := by
  have hmem : ∀ other, other ∉ l.alternatives := fun other =>
    Set.eq_empty_iff_forall_notMem.mp h other
  rcases hl with ⟨only, rfl⟩ | ⟨alternatives, rfl⟩
  · exact (hmem only (List.mem_singleton_self only)).elim
  · rw [Bindings.concrete_oneOf]
    cases alternatives with
    | nil => rfl
    | cons first rest => exact (hmem first List.mem_cons_self).elim

/-- Where there is at most one alternative, it does not matter how it is kept. -/
theorem concrete_eq_of_options_eq (b b' : Bindings) (hl : l.IsEnd) (hr : r.IsEnd)
    (h : l.options = r.options) (hsingle : l.options.Subsingleton) :
    b.concrete l = b'.concrete r := by
  rcases hsingle.eq_empty_or_singleton with hempty | ⟨column, hcolumn⟩
  · rw [concrete_of_options_eq_empty b hl hempty, concrete_of_options_eq_empty b' hr (h ▸ hempty)]
  · rw [concrete_of_options_eq_singleton b hl hcolumn,
      concrete_of_options_eq_singleton b' hr (h ▸ hcolumn)]

end InferredType

namespace Bindings

variable {b : Bindings}

/-- What is known about the type of a value: nothing, or the column types of which it has one. -/
def known (b : Bindings) (t : InferredType) : Option (Set ColumnType) :=
  match b.ending t with
  | .var _ => none
  | ending => some ending.options

theorem known_of_isEnd (b : Bindings) {e : InferredType} (he : e.IsEnd) :
    b.known e = some e.options := by
  rcases he with ⟨column, rfl⟩ | ⟨alternatives, rfl⟩
  · rw [known, ending_column]
  · rw [known, ending_oneOf]

theorem known_casts (b : Bindings) (inputs : List InferredType) (t : InferredType) :
    b.known (.casts inputs t) = b.known t := by
  rw [known, ending_casts, known]

theorem Acyclic.known_bound (hb : b.Acyclic) {v : VarId} {t : InferredType}
    (h : b.get? v = some t) : b.known (.var v) = b.known t := by
  rw [known, hb.ending_bound h, known]

end Bindings

end QueryTyping
