import QueryTyping.Proofs.Inference.Alternatives

/-!
# The preferred alternative

Of several alternatives the first is preferred: it is the one that a type comes down to. What two
lists have in common begins with the first alternative on the left that goes with any on the right,
met with the first on the right that it goes with (`ColumnType.head?_commonAlternatives_iff`).

So what is preferred once is preferred ever after: when the common alternatives meet one of the two
lists again, or themselves, the same alternative comes first
(`InferredType.exists_meet_again`). New alternatives may turn up behind it.
-/

namespace QueryTyping

/-! ## Lists of alternatives -/

namespace ColumnType

variable {a l r m p : ColumnType} {A B M : List ColumnType}

theorem meet_self (l : ColumnType) : l.meet l = some l := by
  rw [meet_eq_some_iff, Bool.or_self]
  exact ⟨by cases l.core <;> rfl, rfl⟩

/-- What two column types have in common has no more in common with either. -/
theorem meet_of_meet (h : l.meet r = some m) : m.meet l = some m ∧ m.meet r = some m := by
  have hleft {l r : ColumnType} (h : l.meet r = some m) : m.meet l = some m := by
    have hassoc := meet_assoc l l r
    rw [meet_self, h, Option.bind_some, Option.bind_some, h] at hassoc
    rw [meet_comm, ← hassoc]
  exact ⟨hleft h, hleft (meet_comm l r ▸ h)⟩

/-- What does not go with one of two column types does not go with their meet. -/
theorem meet_eq_none_of_meet (h : l.meet r = some m) (ha : a.meet l = none ∨ a.meet r = none) :
    a.meet m = none := by
  have hleft {l r : ColumnType} (h : l.meet r = some m) (ha : a.meet l = none) :
      a.meet m = none := by
    have hassoc := meet_assoc a l r
    rwa [h, ha, Option.bind_none, Option.bind_some, eq_comm] at hassoc
  rcases ha with ha | ha
  · exact hleft h ha
  · exact hleft (meet_comm l r ▸ h) ha

/-- A fold whose steps add at the end begins with the first that is added. -/
theorem head?_foldl {α β : Type} {f : List β → α → List β} {g : α → Option β}
    (hstep : ∀ found x, (f found x).head? = found.head?.or (g x)) (xs : List α) (found : List β) :
    (xs.foldl f found).head? = found.head?.or (xs.findSome? g) := by
  induction xs generalizing found with
  | nil => simp
  | cons x xs ih =>
    rw [List.foldl_cons, ih, hstep, List.findSome?_cons, Option.or_assoc]
    cases g x <;> simp

theorem head?_commonAlternatives (A B : List ColumnType) :
    (commonAlternatives A B).head? = A.findSome? fun a => B.findSome? a.meet := by
  unfold commonAlternatives
  rw [head?_foldl (g := fun a => B.findSome? a.meet)]
  · rfl
  · intro found a
    refine head?_foldl (fun found b => ?_) B found
    cases a.meet b with
    | none => simp
    | some m =>
      -- an alternative that is not new has others before it
      by_cases hmem : m ∈ found
      · obtain ⟨first, rest, rfl⟩ := List.exists_cons_of_ne_nil (List.ne_nil_of_mem hmem)
        simp [hmem]
      · simp [hmem, List.head?_append]

/-- Which alternative comes first. -/
theorem head?_commonAlternatives_iff :
    (commonAlternatives A B).head? = some p ↔
      ∃ A₁ a A₂, A = A₁ ++ a :: A₂ ∧ (∀ a' ∈ A₁, ∀ b ∈ B, a'.meet b = none) ∧
        ∃ B₁ b B₂, B = B₁ ++ b :: B₂ ∧ a.meet b = some p ∧ ∀ b' ∈ B₁, a.meet b' = none := by
  simp only [head?_commonAlternatives, List.findSome?_eq_some_iff, List.findSome?_eq_none_iff]
  constructor
  · rintro ⟨A₁, a, A₂, hA, hB, hnone⟩
    exact ⟨A₁, a, A₂, hA, hnone, hB⟩
  · rintro ⟨A₁, a, A₂, hA, hnone, hB⟩
    exact ⟨A₁, a, A₂, hA, hB, hnone⟩

theorem head?_commonAlternatives_self (h : M.head? = some p) :
    (commonAlternatives M M).head? = some p := by
  obtain ⟨rest, rfl⟩ := List.head?_eq_some_iff.mp h
  exact head?_commonAlternatives_iff.mpr
    ⟨[], p, rest, rfl, by simp, [], p, rest, rfl, meet_self p, by simp⟩

/-- What was preferred goes before all when it meets either list again. -/
theorem head?_commonAlternatives_left (h : (commonAlternatives A B).head? = some p)
    (hM : M.head? = some p) :
    (commonAlternatives M A).head? = some p ∧ (commonAlternatives M B).head? = some p := by
  obtain ⟨A₁, a, A₂, rfl, hbefore, B₁, b, B₂, rfl, hmeet, hbefore'⟩ :=
    head?_commonAlternatives_iff.mp h
  obtain ⟨rest, rfl⟩ := List.head?_eq_some_iff.mp hM
  obtain ⟨ha, hb⟩ := meet_of_meet hmeet
  simp only [head?_commonAlternatives_iff]
  refine ⟨⟨[], p, rest, rfl, by simp, A₁, a, A₂, rfl, ha, fun a' ha' => ?_⟩,
    ⟨[], p, rest, rfl, by simp, B₁, b, B₂, rfl, hb, fun b' hb' => ?_⟩⟩
  · rw [meet_comm]
    exact meet_eq_none_of_meet hmeet (Or.inr (hbefore a' ha' b (by simp)))
  · rw [meet_comm]
    exact meet_eq_none_of_meet hmeet (Or.inl (meet_comm a b' ▸ hbefore' b' hb'))

theorem head?_commonAlternatives_right (h : (commonAlternatives A B).head? = some p) :
    (commonAlternatives A (commonAlternatives A B)).head? = some p := by
  obtain ⟨rest, hcommon⟩ := List.head?_eq_some_iff.mp h
  obtain ⟨A₁, a, A₂, hA, hbefore, B₁, b, B₂, hB, hmeet, -⟩ := head?_commonAlternatives_iff.mp h
  refine head?_commonAlternatives_iff.mpr
    ⟨A₁, a, A₂, hA, fun a' ha' m hm => ?_, [], p, rest, hcommon, ?_, by simp⟩
  · obtain ⟨l, -, r, hr, hmeet'⟩ := mem_commonAlternatives.mp hm
    exact meet_eq_none_of_meet hmeet' (Or.inr (hbefore a' ha' r hr))
  · rw [meet_comm]
    exact (meet_of_meet hmeet).1

end ColumnType

/-! ## Types -/

namespace InferredType

variable {e f m n : InferredType} {p : ColumnType}

/-- The type is a column type or alternatives, and this is the preferred one. -/
def Prefers (e : InferredType) (p : ColumnType) : Prop := e.IsEnd ∧ e.alternatives.head? = some p

theorem Prefers.concrete_eq (h : e.Prefers p) (b : Bindings) : b.concrete e = p := by
  obtain ⟨⟨column, rfl⟩ | ⟨alternatives, rfl⟩, hfirst⟩ := h
  · rw [Bindings.concrete_column]
    exact Option.some.inj hfirst
  · rw [Bindings.concrete_oneOf]
    have hfirst : alternatives.head? = some p := hfirst
    rw [hfirst, Option.getD_some]

theorem commonAlternatives_singleton_comm (column : ColumnType) (alternatives : List ColumnType) :
    ColumnType.commonAlternatives alternatives [column] =
      ColumnType.commonAlternatives [column] alternatives := by
  simp [ColumnType.commonAlternatives, ColumnType.meet_comm column]

/-- A column type meets like a list of one alternative. -/
theorem meet_eq_narrow (he : e.IsEnd) (hf : f.IsEnd) :
    e.meet f = narrow e.alternatives f.alternatives := by
  rcases he with ⟨l, rfl⟩ | ⟨l, rfl⟩
  · rcases hf with ⟨r, rfl⟩ | ⟨r, rfl⟩
    · cases hmeet : l.meet r <;>
        simp [meet, narrow, alternatives, ColumnType.commonAlternatives, hmeet]
    · rw [meet, narrow, narrow, commonAlternatives_singleton_comm]
      rfl
  · rcases hf with ⟨r, rfl⟩ | ⟨r, rfl⟩
    · rfl
    · rfl

theorem alternatives_meet (h : e.meet f = some m) :
    m.alternatives = ColumnType.commonAlternatives e.alternatives f.alternatives := by
  obtain ⟨he, hf⟩ := sides_of_meet h
  rw [meet_eq_narrow he hf] at h
  exact (narrow_eq_some h).1

theorem exists_meet_of_head?
    (h : (ColumnType.commonAlternatives e.alternatives f.alternatives).head? = some p) :
    ∃ m, e.meet f = some m ∧ m.Prefers p := by
  obtain ⟨l, hl, r, hr, hmeet⟩ :=
    ColumnType.mem_commonAlternatives.mp (List.mem_of_head? h)
  obtain ⟨m, hm⟩ := exists_meet hl hr hmeet
  exact ⟨m, hm, isEnd_of_meet hm, by rw [alternatives_meet hm, h]⟩

theorem IsEnd.exists_prefers_iff (he : e.IsEnd) : (∃ p, e.Prefers p) ↔ e.alternatives ≠ [] := by
  constructor
  · rintro ⟨p, -, hp⟩ hnil
    rw [hnil] at hp
    cases hp
  · intro hne
    obtain ⟨p, rest, hp⟩ := List.exists_cons_of_ne_nil hne
    exact ⟨p, he, by rw [hp, List.head?_cons]⟩

theorem exists_prefers_of_meet (h : e.meet f = some m) : ∃ p, m.Prefers p :=
  (isEnd_of_meet h).exists_prefers_iff.mpr (meet_alternatives_ne_nil h)

/-! ## Meeting again -/

theorem Prefers.meet_self (h : m.Prefers p) : ∃ n, m.meet m = some n ∧ n.Prefers p :=
  exists_meet_of_head? (ColumnType.head?_commonAlternatives_self h.2)

/-- What two types have in common meets either of them again. -/
theorem exists_meet_again (h : e.meet f = some m) (hm : m.Prefers p) :
    (∃ n, m.meet e = some n ∧ n.Prefers p) ∧ (∃ n, m.meet f = some n ∧ n.Prefers p) ∧
      ∃ n, e.meet m = some n ∧ n.Prefers p := by
  have hcommon := hm.2
  rw [alternatives_meet h] at hcommon
  obtain ⟨hleft, hright⟩ := ColumnType.head?_commonAlternatives_left hcommon hm.2
  have hagain := ColumnType.head?_commonAlternatives_right hcommon
  rw [← alternatives_meet h] at hagain
  exact ⟨exists_meet_of_head? hleft, exists_meet_of_head? hright, exists_meet_of_head? hagain⟩

end InferredType

end QueryTyping
