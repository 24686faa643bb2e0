import QueryTyping.Proofs.Inference.Links
import QueryTyping.Proofs.Inference.Narrowing

/-!
# Types that cannot change any more

Unifications never take an input away. So a type is null for good if one of the inputs of its casts
is, or is null for good itself (`PinnedNull`). Together with a core type that is fixed this leaves
nothing to be decided (`Frozen`).

A type that is not null for good is not null as soon as all the variables that it leads to have
casts (`Acyclic.not_nullable`).
-/

namespace QueryTyping

namespace Bindings

variable {b b' : Bindings} {x y : VarId} {t l r c : InferredType} {core : CoreType}

/-- The type is null, whatever is unified. -/
inductive PinnedNull (b : Bindings) : InferredType → Prop where
  | column {ty : ColumnType} (h : ty.nullable = true) : PinnedNull b (.column ty)
  | oneOf {alternatives : List ColumnType}
      (h : (alternatives.head?.getD .unknown).nullable = true) : PinnedNull b (.oneOf alternatives)
  | input {t input : InferredType} (hinput : input ∈ b.inputs t) (h : PinnedNull b input) :
      PinnedNull b t

/-- The core type is known. -/
def FixedTo (b : Bindings) (t : InferredType) (core : CoreType) : Prop :=
  core ≠ .any ∧ ∀ k, b.Allows t k ↔ k = core

/-- The two types are null for good, with the same core type for good. -/
def Frozen (b : Bindings) (l r : InferredType) : Prop :=
  b.PinnedNull l ∧ b.PinnedNull r ∧ ∃ core, b.FixedTo l core ∧ b.FixedTo r core

theorem Frozen.symm (h : b.Frozen l r) : b.Frozen r l := by
  obtain ⟨hl, hr, core, hcore, hcore'⟩ := h
  exact ⟨hr, hl, core, hcore', hcore⟩

/-! ## Null for good -/

theorem not_pinnedNull_column {ty : ColumnType} (h : ty.nullable = false) :
    ¬b.PinnedNull (.column ty) := by
  intro hpinned
  cases hpinned with
  | column h' => simp [h] at h'
  | input hinput _ => simp at hinput

/-- A cast is null for good by way of its inputs only. -/
theorem PinnedNull.exists_input (h : b.PinnedNull t) (hne : b.inputs t ≠ []) :
    ∃ input ∈ b.inputs t, b.PinnedNull input := by
  cases h with
  | column _ => simp at hne
  | oneOf _ => simp at hne
  | input hinput h => exact ⟨_, hinput, h⟩

theorem Acyclic.nullable_of_pinnedNull (hb : b.Acyclic) (h : b.PinnedNull t) :
    (b.concrete t).nullable = true := by
  induction h with
  | column h => rwa [concrete_column]
  | oneOf h => rwa [concrete_oneOf]
  | input hinput _ ih =>
    rw [hb.concrete_nullable, if_neg (List.ne_nil_of_mem hinput), List.any_eq_true]
    exact ⟨_, hinput, ih⟩

theorem PinnedNull.unify (hb : b.Acyclic) (h : b.PinnedNull t)
    (hunify : b.unify l r = (.ok c, b')) : b'.PinnedNull t := by
  induction h with
  | column h => exact .column h
  | oneOf h => exact .oneOf h
  | input hinput _ ih => exact .input ((hb.inputsAfter_unify hunify).kept _ hinput) ih

/-- What is null for good depends only on what the type leads to. -/
theorem PinnedNull.congr (hb : b.Acyclic) (h : b.PinnedNull t) (hagree : AgreeFrom b b' t) :
    b'.PinnedNull t := by
  induction h with
  | column h => exact .column h
  | oneOf h => exact .oneOf h
  | @input t input hinput _ ih =>
    refine .input ?_ (ih fun v hv => hagree v (hb.leads_of_mem_inputs hinput hv))
    rwa [inputs, chain_congr hagree]

/-- Where every variable has a cast, only what is null for good is null. -/
theorem Acyclic.not_nullable (hb : b.Acyclic)
    (hcasts : ∀ v, b.Leads t v → b.inputs (.var v) ≠ []) (h : ¬b.PinnedNull t) :
    (b.concrete t).nullable = false := by
  induction t using hb.induction with
  | column ty =>
    rw [concrete_column, Bool.eq_false_iff]
    exact fun hnull => h (.column hnull)
  | oneOf alternatives =>
    rw [concrete_oneOf, Bool.eq_false_iff]
    exact fun hnull => h (.oneOf hnull)
  | cast input result ihinput ihresult =>
    have hinput := ihinput (fun v hv => hcasts v (leads_cast.mpr (Or.inl hv)))
      fun hpinned => h (.input (by simp) hpinned)
    rw [concrete_cast, hinput]
    -- the result counts only if it is a cast itself
    cases hempty : (b.inputs result).isEmpty with
    | true => simp [ColumnType.withNullable]
    | false =>
      have hresult := ihresult (fun v hv => hcasts v (leads_cast.mpr (Or.inr hv))) fun hpinned => by
        obtain ⟨i, hi, hpinned⟩ := hpinned.exists_input (List.isEmpty_eq_false_iff.mp hempty)
        exact h (.input (by simp [hi]) hpinned)
      simp [hresult, ColumnType.withNullable]
  | unbound id hid => exact (hcasts id (leads_var_self b id) (inputs_var_none hid)).elim
  | bound id ty hid ih =>
    rw [hb.concrete_bound hid]
    refine ih (fun v hv => hcasts v ((leads_bound hid).mpr (Or.inr hv))) fun hpinned => ?_
    have hne := hcasts id (leads_var_self b id)
    rw [hb.inputs_bound hid] at hne
    obtain ⟨i, hi, hpinned⟩ := hpinned.exists_input hne
    exact h (.input (by rwa [hb.inputs_bound hid]) hpinned)

/-! ## A core type for good -/

/-- All alternatives at the end have the core type. -/
theorem Acyclic.fixedTo_iff (hb : b.Acyclic) :
    b.FixedTo t core ↔ core ≠ .any ∧ (b.ending t).alternatives ≠ [] ∧
      ∀ ty ∈ (b.ending t).alternatives, ty.core = core := by
  refine and_congr_right fun _ => ?_
  simp only [hb.allows_iff]
  constructor
  · intro h
    obtain ⟨ty, hty, -⟩ := (h core).mpr rfl
    exact ⟨List.ne_nil_of_mem hty, fun ty hty => (h _).mp ⟨ty, hty, rfl⟩⟩
  · rintro ⟨hne, hall⟩ k
    constructor
    · rintro ⟨ty, hty, rfl⟩
      exact hall ty hty
    · rintro rfl
      obtain ⟨ty, hty⟩ := List.exists_mem_of_ne_nil _ hne
      exact ⟨ty, hty, hall ty hty⟩

theorem FixedTo.unify (hb : b.Acyclic) (h : b.FixedTo t core)
    (hunify : b.unify l r = (.ok c, b')) : b'.FixedTo t core :=
  ⟨h.1, (hb.endingsAfter_unify hunify).allows_single hb h.1 h.2⟩

/-! ## Nothing left to be decided -/

/-- A type with the chain of a variable is frozen as the variable is. -/
theorem Frozen.congr (hb : b.Acyclic) (h : b.Frozen (.var x) (.var y))
    (hl : b.chain (.var x) = b.chain l) (hr : b.chain (.var y) = b.chain r) : b.Frozen l r := by
  have hpinned : ∀ {v t}, b.chain (.var v) = b.chain t → b.PinnedNull (.var v) →
      b.PinnedNull t := by
    intro v t hchain hv
    cases hv with
    | input hinput hpinned => exact .input (by rwa [inputs, ← hchain]) hpinned
  have hfixed : ∀ {v t core}, b.chain (.var v) = b.chain t → b.FixedTo (.var v) core →
      b.FixedTo t core := by
    intro v t core hchain hcore
    rw [hb.fixedTo_iff] at hcore ⊢
    rwa [ending, ← hchain]
  obtain ⟨hx, hy, core, hcore, hcore'⟩ := h
  exact ⟨hpinned hl hx, hpinned hr hy, core, hfixed hl hcore, hfixed hr hcore'⟩

theorem Frozen.unify (hb : b.Acyclic) {t t' : InferredType} (h : b.Frozen t t')
    (hunify : b.unify l r = (.ok c, b')) : b'.Frozen t t' := by
  obtain ⟨ht, ht', core, hcore, hcore'⟩ := h
  exact ⟨ht.unify hb hunify, ht'.unify hb hunify, core, hcore.unify hb hunify,
    hcore'.unify hb hunify⟩

theorem Acyclic.concrete_of_frozen (hb : b.Acyclic) (h : b.Frozen l r) :
    b.concrete l = b.concrete r := by
  obtain ⟨hl, hr, core, hcore, hcore'⟩ := h
  have hnull := (hb.nullable_of_pinnedNull hl).trans (hb.nullable_of_pinnedNull hr).symm
  have hsame := (hb.core_of_allows_single hcore.2).trans (hb.core_of_allows_single hcore'.2).symm
  generalize b.concrete l = ty at *
  generalize b.concrete r = ty' at *
  cases ty
  cases ty'
  simp_all

end Bindings

end QueryTyping
