import QueryTyping.Proofs.Inference.Concrete
import QueryTyping.Proofs.Inference.Endings
import QueryTyping.Proofs.Inference.Session

/-!
# Constraints are never widened

What is known about the core type of a value stands at the end of its chain, and a unification
replaces endings by their meets. So the core types that a type may come to never grow, for no type
whatsoever, unless nothing was known or `any` was among them
(`Session.constraints_never_widen`).
-/

namespace QueryTyping

namespace Bindings

variable {b b' b₁ : Bindings} {id x : VarId} {t l r c : InferredType}

/-! ## Allowed core types -/

/-- A value of the type may have the core type, as far as is known. -/
inductive Allows (b : Bindings) : InferredType → CoreType → Prop where
  | column (ty : ColumnType) : Allows b (.column ty) ty.core
  | oneOf {alternatives : List ColumnType} {ty : ColumnType} (h : ty ∈ alternatives) :
      Allows b (.oneOf alternatives) ty.core
  | cast {input result : InferredType} {core : CoreType} (h : Allows b result core) :
      Allows b (.cast input result) core
  | bound {id : VarId} {bound : InferredType} {core : CoreType} (hid : b.get? id = some bound)
      (h : Allows b bound core) : Allows b (.var id) core

/-- Nothing is known about the core type of a value of the type. -/
inductive Unconstrained (b : Bindings) : InferredType → Prop where
  | cast {input result : InferredType} (h : Unconstrained b result) :
      Unconstrained b (.cast input result)
  | unbound {id : VarId} (h : b.get? id = none) : Unconstrained b (.var id)
  | bound {id : VarId} {bound : InferredType} (hid : b.get? id = some bound)
      (h : Unconstrained b bound) : Unconstrained b (.var id)

/-- Every core type that `b'` allows for `t'` is one that `b` allowed for `t`, if `b` excluded
any at all. -/
def NoWider (b : Bindings) (t : InferredType) (b' : Bindings) (t' : InferredType) : Prop :=
  ∀ core, b'.Allows t' core → b.Allows t core ∨ b.Unconstrained t ∨ b.Allows t .any

theorem Acyclic.allows_iff (hb : b.Acyclic) {core : CoreType} :
    b.Allows t core ↔ ∃ ty ∈ (b.ending t).alternatives, ty.core = core := by
  constructor
  · intro h
    induction h with
    | column ty => simp [InferredType.alternatives]
    | @oneOf alternatives ty h => exact ⟨ty, by simpa [InferredType.alternatives] using h, rfl⟩
    | cast _ ih => simpa using ih
    | bound hid _ ih => rwa [hb.ending_bound hid]
  · induction t using hb.induction with
    | column ty =>
      simp only [ending_column, InferredType.alternatives, List.mem_singleton, exists_eq_left]
      rintro rfl
      exact .column ty
    | oneOf alternatives =>
      simp only [ending_oneOf, InferredType.alternatives]
      rintro ⟨ty, hty, rfl⟩
      exact .oneOf hty
    | cast input result _ ih =>
      rw [ending_cast]
      exact fun h => .cast (ih h)
    | unbound id hid => simp [hid, InferredType.alternatives]
    | bound id ty hid ih =>
      rw [hb.ending_bound hid]
      exact fun h => .bound hid (ih h)

theorem Acyclic.unconstrained_iff (hb : b.Acyclic) :
    b.Unconstrained t ↔ ∃ x, b.ending t = .var x := by
  constructor
  · intro h
    induction h with
    | cast _ ih => simpa using ih
    | @unbound id hid => exact ⟨id, ending_var_none hid⟩
    | bound hid _ ih => rwa [hb.ending_bound hid]
  · induction t using hb.induction with
    | column ty => simp
    | oneOf alternatives => simp
    | cast input result _ ih =>
      rw [ending_cast]
      exact fun h => .cast (ih h)
    | unbound id hid => exact fun _ => .unbound hid
    | bound id ty hid ih =>
      rw [hb.ending_bound hid]
      exact fun h => .bound hid (ih h)

/-! ## What a unification allows -/

/-- An alternative of the meet goes back to one on the left. -/
theorem MeetEnding.exists_alternative {e e' m : InferredType} (h : MeetEnding e e' m)
    {ty : ColumnType} (hty : ty ∈ m.alternatives) :
    (∃ x, e = .var x) ∨ ∃ a ∈ e.alternatives, a.core = ty.core ∨ a.core = .any := by
  cases h with
  | @left x => exact Or.inl ⟨x, rfl⟩
  | right => exact Or.inr ⟨ty, hty, Or.inl rfl⟩
  | meet h =>
    obtain ⟨a, ha, a', -, hmeet⟩ := (InferredType.mem_alternatives_meet h).mp hty
    obtain ⟨hcore, -⟩ := CoreType.eq_of_meet (ColumnType.meet_eq_some_iff.mp hmeet).1
    exact Or.inr ⟨a, ha, hcore.imp_left Eq.symm⟩
  | meetSwapped h =>
    obtain ⟨a', -, a, ha, hmeet⟩ := (InferredType.mem_alternatives_meet h).mp hty
    obtain ⟨-, hcore⟩ := CoreType.eq_of_meet (ColumnType.meet_eq_some_iff.mp hmeet).1
    exact Or.inr ⟨a, ha, hcore.imp_left Eq.symm⟩

/-- The meet says nothing only if neither side does. -/
theorem MeetEnding.eq_var {e e' : InferredType} (h : MeetEnding e e' (.var x)) :
    (∃ y, e = .var y) ∧ ∃ y, e' = .var y := by
  cases h with
  | @left y => exact ⟨⟨y, rfl⟩, x, rfl⟩
  | @right _ y => exact ⟨⟨x, rfl⟩, y, rfl⟩
  | meet h => exact (InferredType.meet_alternatives_ne_nil h rfl).elim
  | meetSwapped h => exact (InferredType.meet_alternatives_ne_nil h rfl).elim

theorem MeetEnding.alternatives_ne_nil {e e' m : InferredType} (h : MeetEnding e e' m)
    (he : e.alternatives ≠ []) : m.alternatives ≠ [] := by
  cases h with
  | left => exact (he rfl).elim
  | right => exact he
  | meet h => exact InferredType.meet_alternatives_ne_nil h
  | meetSwapped h => exact InferredType.meet_alternatives_ne_nil h

section EndingsAfter

variable (hb : b.Acyclic) (h : EndingsAfter b b' l r c)
include hb h

theorem EndingsAfter.noWider_left : NoWider b l b' c := by
  intro core hcore
  obtain ⟨ty, hty, rfl⟩ := h.acyclic.allows_iff.mp hcore
  rcases h.combined.exists_alternative hty with hvar | ⟨a, ha, hsame | hany⟩
  · exact Or.inr (Or.inl (hb.unconstrained_iff.mpr hvar))
  · exact Or.inl (hb.allows_iff.mpr ⟨a, ha, hsame⟩)
  · exact Or.inr (Or.inr (hb.allows_iff.mpr ⟨a, ha, hany⟩))

/-- No type allows more than before. -/
theorem EndingsAfter.noWider (t : InferredType) : NoWider b t b' t := by
  rcases h.others t with hkept | ⟨hside, hnew⟩
  · intro core hcore
    rw [h.acyclic.allows_iff, hkept, ← hb.allows_iff] at hcore
    exact Or.inl hcore
  · intro core hcore
    rw [h.acyclic.allows_iff, hnew, ← h.acyclic.allows_iff] at hcore
    rw [hb.allows_iff, hb.allows_iff, hb.unconstrained_iff]
    rcases hside with hside | hside
    · rw [hside, ← hb.allows_iff, ← hb.allows_iff, ← hb.unconstrained_iff]
      exact h.noWider_left hb core hcore
    · rw [hside, ← hb.allows_iff, ← hb.allows_iff, ← hb.unconstrained_iff]
      exact h.symm.noWider_left hb core hcore

/-- What is known about a type stays known. -/
theorem EndingsAfter.unconstrained (ht : b'.Unconstrained t) : b.Unconstrained t := by
  rw [h.acyclic.unconstrained_iff] at ht
  rw [hb.unconstrained_iff]
  obtain ⟨x, hx⟩ := ht
  rcases h.others t with hkept | ⟨hside, hnew⟩
  · exact ⟨x, hkept ▸ hx⟩
  · -- the new ending is a variable, so both old ones were
    obtain ⟨hl, hr⟩ := (hx ▸ hnew ▸ h.combined).eq_var
    rcases hside with hside | hside
    · exact hside ▸ hl
    · exact hside ▸ hr

theorem EndingsAfter.unconstrained_combined (hc : b'.Unconstrained c) :
    b.Unconstrained l ∧ b.Unconstrained r := by
  rw [h.acyclic.unconstrained_iff] at hc
  rw [hb.unconstrained_iff, hb.unconstrained_iff]
  obtain ⟨x, hx⟩ := hc
  exact (hx ▸ h.combined).eq_var

/-- A type that is fixed to one core type stays fixed to it. -/
theorem EndingsAfter.allows_single {core : CoreType} (hcore : core ≠ .any)
    (ht : ∀ k, b.Allows t k ↔ k = core) : ∀ k, b'.Allows t k ↔ k = core := by
  obtain ⟨a, ha, hacore⟩ := hb.allows_iff.mp ((ht core).mpr rfl)
  have hne : (b.ending t).alternatives ≠ [] := List.ne_nil_of_mem ha
  -- nothing else is allowed afterwards, so it is enough that something is
  have honly : ∀ k, b'.Allows t k → k = core := by
    intro k hk
    rcases h.noWider hb t k hk with hold | hfree | hany
    · exact (ht k).mp hold
    · obtain ⟨x, hx⟩ := hb.unconstrained_iff.mp hfree
      rw [hx] at hne
      exact (hne rfl).elim
    · exact (hcore ((ht _).mp hany).symm).elim
  have hne' : (b'.ending t).alternatives ≠ [] := by
    rcases h.others t with hkept | ⟨hside | hside, hnew⟩
    · exact hkept ▸ hne
    · exact hnew ▸ h.combined.alternatives_ne_nil (hside ▸ hne)
    · exact hnew ▸ h.combined.symm.alternatives_ne_nil (hside ▸ hne)
  obtain ⟨ty, hty⟩ := List.exists_mem_of_ne_nil _ hne'
  intro k
  refine ⟨honly k, ?_⟩
  rintro rfl
  have hallows : b'.Allows t ty.core := h.acyclic.allows_iff.mpr ⟨ty, hty, rfl⟩
  exact honly _ hallows ▸ hallows

end EndingsAfter

/-- A type that is fixed to one core type comes down to it. -/
theorem Acyclic.core_of_allows_single (hb : b.Acyclic) {core : CoreType}
    (ht : ∀ k, b.Allows t k ↔ k = core) : (b.concrete t).core = core := by
  obtain ⟨a, ha, -⟩ := hb.allows_iff.mp ((ht core).mpr rfl)
  have hmem : ∀ ty ∈ (b.ending t).alternatives, ty.core = core :=
    fun ty hty => (ht _).mp (hb.allows_iff.mpr ⟨ty, hty, rfl⟩)
  rw [hb.concrete_core]
  cases hending : b.ending t with
  | column ty =>
    rw [concrete_column]
    exact hmem ty (by simp [hending, InferredType.alternatives])
  | oneOf alternatives =>
    rw [hending] at ha hmem
    cases alternatives with
    | nil => simp [InferredType.alternatives] at ha
    | cons ty rest => simpa using hmem ty (by simp [InferredType.alternatives])
  | cast input result => simp [hending, InferredType.alternatives] at ha
  | var id => simp [hending, InferredType.alternatives] at ha

end Bindings

namespace Session

/-- A parameter keeps its variable. -/
theorem mem_parameterVariables_run {s : Session} {entry : Parameter × VarId}
    (h : entry ∈ s.inference.parameterVariables) (calls : List Call) :
    entry ∈ (s.run calls).inference.parameterVariables := by
  induction calls generalizing s with
  | nil => exact h
  | cons call calls ih =>
    refine ih ?_
    cases call with
    | fresh => exact h
    | unify l r => exact h
    | others supply => exact h
    | parameter parameter =>
      simp only [Session.call, Inference.parameter]
      split
      · exact h
      · exact List.mem_append_left _ h

/-- Recorded constraints are never widened. After a unification the combined type, and every
variable, allow only core types that both sides, or the variable, allowed before; what was
constrained stays constrained. So a parameter that is fixed to one core type other than `any` has
that core type in every session that is reached later. -/
theorem constraints_never_widen {s : Session} (hs : s.Reachable) :
    (∀ l r c inference, s.inference.unify l r = (.ok c, inference) →
      (s.bindings.NoWider l inference.bindings c ∧ s.bindings.NoWider r inference.bindings c) ∧
      (∀ v, s.bindings.NoWider (.var v) inference.bindings (.var v)) ∧
      (∀ t, inference.bindings.Unconstrained t → s.bindings.Unconstrained t) ∧
      (inference.bindings.Unconstrained c →
        s.bindings.Unconstrained l ∧ s.bindings.Unconstrained r)) ∧
    ∀ parameter id core, (parameter, id) ∈ s.inference.parameterVariables → core ≠ .any →
      (∀ k, s.bindings.Allows (.var id) k ↔ k = core) → ∀ calls,
        (parameter, id) ∈ (s.run calls).inference.parameterVariables ∧
        (∀ k, (s.run calls).bindings.Allows (.var id) k ↔ k = core) ∧
        ((s.run calls).inference.concrete (.var id)).core = core := by
  have hb := hs.acyclic
  constructor
  · intro l r c inference hunify
    have h := hb.endingsAfter_unify (Inference.bindings_unify hunify)
    exact ⟨⟨h.noWider_left hb, h.symm.noWider_left hb⟩, fun v => h.noWider hb _,
      fun t => h.unconstrained hb, h.unconstrained_combined hb⟩
  · intro parameter id core hmem hcore hfixed calls
    obtain ⟨hb', hfixed'⟩ := run_induction
      (P := fun b => ∀ k, b.Allows (.var id) k ↔ k = core)
      (fun b l r c b' hb ht hunify => (hb.endingsAfter_unify hunify).allows_single hb hcore ht)
      hb hfixed calls
    exact ⟨mem_parameterVariables_run hmem calls, hfixed', hb'.core_of_allows_single hfixed'⟩

/-- A parameter that was compared with an integer constant and with a float column is a float from
then on. -/
theorem constraints_never_widen_of_float :
    let s := run {} [
      .parameter (.positional 1),
      .unify (.var 0) (.ofLiteral (.integer 1)),
      .unify (.var 0) (.column (.notNull .float))]
    s.Reachable ∧ ∀ calls, ((s.run calls).inference.concrete (.var 0)).core = .float := by
  intro s
  have hs : s.Reachable := ⟨_, _, rfl⟩
  have hvariables : s.inference.parameterVariables = [(.positional 1, 0)] := by decide +kernel
  have hending : s.bindings.ending (.var 0) = .column (.notNull .float) := by decide +kernel
  have hfixed : ∀ k, s.bindings.Allows (.var 0) k ↔ k = .float := by
    intro k
    rw [hs.acyclic.allows_iff, hending]
    simp [InferredType.alternatives, ColumnType.notNull, eq_comm]
  refine ⟨hs, fun calls => ?_⟩
  have hmem : (.positional 1, 0) ∈ s.inference.parameterVariables := by simp [hvariables]
  exact ((constraints_never_widen hs).2 _ 0 .float hmem (by decide) hfixed calls).2.2

end Session

end QueryTyping
