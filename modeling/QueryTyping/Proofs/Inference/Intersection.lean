import QueryTyping.Proofs.Inference.Compatibility
import QueryTyping.Proofs.Inference.Preference

/-!
# Narrowing is an intersection

Two lists of alternatives are narrowed to the meets of their compatible members. What is left is
nothing, a column type or several alternatives, and is read as a list again (`remaining`): that of
the common alternatives (`remaining_narrow`). As sets these are the meets of the two sets, so
narrowing is commutative and associative although it makes new alternatives: `any` takes the core
type of what it meets and passes on its own nullability, and different pairs may have the same meet.

As a list the result depends on the order, but only on that: no alternative is there twice, and the
first is the first one on the left that goes with any on the right, met with the first on the right
that goes with it (`narrow_eq_intersection`).
-/

namespace QueryTyping

namespace ColumnType

theorem meet_eq_none_iff {l r : ColumnType} : l.meet r = none ↔ ¬l.Compatible r := by
  constructor
  · intro h hcompatible
    have hmeet := meet_eq_some_iff_compatible.mpr ⟨hcompatible, rfl⟩
    simp [h] at hmeet
  · intro h
    cases hmeet : l.meet r with
    | none => rfl
    | some m => exact absurd (meet_eq_some_iff_compatible.mp hmeet).1 h

end ColumnType

namespace InferredType

variable {A B : List ColumnType}

/-- The alternatives that a narrowing leaves, if it leaves any. -/
def remaining : Option InferredType → List ColumnType
  | none => []
  | some ty => ty.alternatives

/-- The set of the alternatives that a narrowing leaves. -/
def denoted (ty : Option InferredType) : Set ColumnType := {m | m ∈ remaining ty}

theorem remaining_narrow (A B : List ColumnType) :
    remaining (narrow A B) = ColumnType.commonAlternatives A B := by
  unfold narrow
  split
  · next h => rw [h, remaining]
  · next h => rw [h, remaining, alternatives]
  · rw [remaining, alternatives]

theorem denoted_narrow (A B : List ColumnType) :
    denoted (narrow A B) = ColumnType.meets {a | a ∈ A} {b | b ∈ B} := by
  ext m
  show m ∈ remaining (narrow A B) ↔ _
  rw [remaining_narrow, ColumnType.mem_commonAlternatives]
  rfl

/-- Nothing is left just if no two alternatives go together. -/
theorem narrow_eq_none_iff : narrow A B = none ↔ ∀ a ∈ A, ∀ b ∈ B, ¬a.Compatible b := by
  constructor
  · intro h a ha b hb hcompatible
    obtain ⟨ty, hty⟩ := exists_narrow ha hb
      (ColumnType.meet_eq_some_iff_compatible.mpr ⟨hcompatible, rfl⟩)
    simp [h] at hty
  · intro h
    cases hty : narrow A B with
    | none => rfl
    | some ty =>
      obtain ⟨heq, hne⟩ := narrow_eq_some hty
      obtain ⟨m, hm⟩ := List.exists_mem_of_ne_nil _ hne
      obtain ⟨a, ha, b, hb, hmeet⟩ := ColumnType.mem_commonAlternatives.mp (heq ▸ hm)
      exact absurd (ColumnType.meet_eq_some_iff_compatible.mp hmeet).1 (h a ha b hb)

/-- Narrowing is an intersection up to order. What is left of two lists are the meets of all
compatible pairs, each once. The sides may be exchanged, and with a third list it does not matter
which two are narrowed first, where nothing counts as the empty set and a column type as the set of
itself. The first alternative is the meet of the first one on the left that goes with any on the
right with the first on the right that goes with it. -/
theorem narrow_eq_intersection (A B C : List ColumnType) :
    denoted (narrow A B) = {m | ∃ a ∈ A, ∃ b ∈ B, a.Compatible b ∧ m = a.both b} ∧
      (narrow A B = none ↔ ∀ a ∈ A, ∀ b ∈ B, ¬a.Compatible b) ∧
      denoted (narrow A B) = denoted (narrow B A) ∧
      denoted (narrow (remaining (narrow A B)) C) =
        denoted (narrow A (remaining (narrow B C))) ∧
      (remaining (narrow A B)).Nodup ∧
      ∀ first, (remaining (narrow A B)).head? = some first ↔
        ∃ A₁ a A₂ B₁ b B₂, A = A₁ ++ a :: A₂ ∧ B = B₁ ++ b :: B₂ ∧
          (∀ a' ∈ A₁, ∀ b' ∈ B, ¬a'.Compatible b') ∧ (∀ b' ∈ B₁, ¬a.Compatible b') ∧
          a.meet b = some first := by
  refine ⟨?_, narrow_eq_none_iff, ?_, ?_, ?_, ?_⟩
  · ext m
    rw [denoted_narrow, ColumnType.mem_meets_iff]
    rfl
  · rw [denoted_narrow, denoted_narrow, ColumnType.meets_comm]
  · calc denoted (narrow (remaining (narrow A B)) C)
        = ColumnType.meets (denoted (narrow A B)) {c | c ∈ C} := denoted_narrow _ C
      _ = ColumnType.meets (ColumnType.meets {a | a ∈ A} {b | b ∈ B}) {c | c ∈ C} := by
        rw [denoted_narrow]
      _ = ColumnType.meets {a | a ∈ A} (ColumnType.meets {b | b ∈ B} {c | c ∈ C}) :=
        ColumnType.meets_assoc _ _ _
      _ = ColumnType.meets {a | a ∈ A} (denoted (narrow B C)) := by rw [denoted_narrow]
      _ = denoted (narrow A (remaining (narrow B C))) := (denoted_narrow A _).symm
  · rw [remaining_narrow]
    exact ColumnType.nodup_commonAlternatives A B
  · intro first
    rw [remaining_narrow, ColumnType.head?_commonAlternatives_iff]
    simp only [ColumnType.meet_eq_none_iff]
    constructor
    · rintro ⟨A₁, a, A₂, hA, hbefore, B₁, b, B₂, hB, hmeet, hbefore'⟩
      exact ⟨A₁, a, A₂, B₁, b, B₂, hA, hB, hbefore, hbefore', hmeet⟩
    · rintro ⟨A₁, a, A₂, B₁, b, B₂, hA, hB, hbefore, hbefore', hmeet⟩
      exact ⟨A₁, a, A₂, hA, hbefore, B₁, b, B₂, hB, hmeet, hbefore'⟩

/-- The two orders give different lists of the same three alternatives, one of them from several
pairs. The first alternative on the left goes with nothing, and the second not with the first on the
right. -/
theorem narrow_eq_intersection_of_any :
    let A : List ColumnType := [.notNull .blob, .notNull .integer, .orNull .any]
    let B : List ColumnType := [.notNull .float, .notNull .integer, .orNull .integer]
    let C : List ColumnType := [.orNull .float, .notNull .any]
    remaining (narrow A B) ≠ remaining (narrow B A) ∧
      denoted (narrow A B) = denoted (narrow B A) ∧
      denoted (narrow (remaining (narrow A B)) C) =
        denoted (narrow A (remaining (narrow B C))) ∧
      (∀ m, m ∈ denoted (narrow A B) ↔
        ∃ a ∈ A, ∃ b ∈ B, a.Compatible b ∧ m = a.both b) ∧
      (remaining (narrow A B)).head? = some (.notNull .integer) := by
  intro A B C
  obtain ⟨hset, -, hcomm, hassoc, -, hfirst⟩ := narrow_eq_intersection A B C
  refine ⟨by decide, hcomm, hassoc, fun m => ?_, ?_⟩
  · rw [hset]
    rfl
  · refine (hfirst _).mpr ⟨[.notNull .blob], .notNull .integer, [.orNull .any],
      [.notNull .float], .notNull .integer, [.orNull .integer], rfl, rfl, ?_, ?_, by decide⟩
    · simp [B, ColumnType.Compatible, ColumnType.notNull, ColumnType.orNull]
    · simp [ColumnType.Compatible, ColumnType.notNull]

end InferredType

end QueryTyping
