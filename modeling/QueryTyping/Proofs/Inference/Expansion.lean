import QueryTyping.Proofs.Inference.Loops

/-!
# Where a variable occurs

A type leads to a variable if the variable comes up when the types of bound variables are put in
their place. To say this without a walk, bound variables are replaced by their types one after the
other, in any order and at any place (`Replaces`), until only the variable that is looked for and
variables without binding are left (`Expanded`). Where no variable leads back to itself this comes
to an end in every order (`Acyclic.wellFounded_replaces`), and always with the same type, which
`expand` computes (`Acyclic.replaces_to_iff`).

The variable occurs in a type exactly if it stands in the expanded type, and exactly if it is
mentioned or reached from a variable that is (`Acyclic.occurs_iff_reached`).
-/

namespace QueryTyping

namespace Bindings

open Relation

variable {b b' : Bindings} {id x : VarId} {ty ty' bound input input' result result' : InferredType}

/-! ## Replacing variables -/

/-- Somewhere in the type, a bound variable other than `id` is replaced by its type. -/
inductive Replaces (b : Bindings) (id : VarId) : InferredType → InferredType → Prop where
  | var {x : VarId} {bound : InferredType} (hx : x ≠ id) (h : b.get? x = some bound) :
      Replaces b id (.var x) bound
  | input {input input' : InferredType} (result : InferredType) (h : Replaces b id input input') :
      Replaces b id (.cast input result) (.cast input' result)
  | result (input : InferredType) {result result' : InferredType}
      (h : Replaces b id result result') :
      Replaces b id (.cast input result) (.cast input result')

/-- No bound variable is left in the type, but perhaps `id`. -/
def Expanded (b : Bindings) (id : VarId) (ty : InferredType) : Prop :=
  ∀ x, ty.mentions x = true → x ≠ id → b.get? x = none

/-- Puts the types of bound variables in their place, but for `id`, until none is left. -/
def expand (b : Bindings) (id : VarId) (ty : InferredType) : InferredType :=
  match ty with
  | .var x =>
    if x = id then .var x
    else
      match _h : b.get? x with
      | some bound => (b.erase x).expand id bound
      | none => .var x
  | .cast input result => .cast (b.expand id input) (b.expand id result)
  | .column ty => .column ty
  | .oneOf alternatives => .oneOf alternatives
termination_by b.weight + ty.size
decreasing_by
  · exact weight_erase_lt _h
  · simp only [InferredType.size]; omega
  · simp only [InferredType.size]; omega

@[simp] theorem expand_column (column : ColumnType) :
    b.expand id (.column column) = .column column := by
  rw [expand]

@[simp] theorem expand_oneOf (alternatives : List ColumnType) :
    b.expand id (.oneOf alternatives) = .oneOf alternatives := by
  rw [expand]

@[simp] theorem expand_cast :
    b.expand id (.cast input result) = .cast (b.expand id input) (b.expand id result) := by
  rw [expand]

@[simp] theorem expand_var_self (b : Bindings) (id : VarId) :
    b.expand id (.var id) = .var id := by
  rw [expand, if_pos rfl]

theorem expand_var_none (h : b.get? x = none) : b.expand id (.var x) = .var x := by
  rw [expand]
  split
  · rfl
  · split
    · next heq => simp [h] at heq
    · rfl

theorem expand_var_some (hx : x ≠ id) (h : b.get? x = some bound) :
    b.expand id (.var x) = (b.erase x).expand id bound := by
  rw [expand, if_neg hx]
  split
  · next bound' heq =>
    obtain rfl : bound' = bound := by simpa [h] using heq.symm
    rfl
  · next heq => simp [h] at heq

theorem expand_congr (h : AgreeFrom b b' ty) : b'.expand id ty = b.expand id ty := by
  fun_induction expand b id ty generalizing b' with
  | case1 => rw [expand_var_self]
  | case2 b x hx bound hbound ih =>
    rw [expand_var_some hx (h.get?_eq.trans hbound), ih (h.erase hbound)]
  | case3 b x hx hnone => rw [expand_var_none (h.get?_eq.trans hnone)]
  | case4 b input result ihinput ihresult =>
    rw [expand_cast, ihinput h.of_cast.1, ihresult h.of_cast.2]
  | case5 => rw [expand_column]
  | case6 => rw [expand_oneOf]

theorem Acyclic.expand_bound (hb : b.Acyclic) (hx : x ≠ id) (h : b.get? x = some bound) :
    b.expand id (.var x) = b.expand id bound := by
  rw [expand_var_some hx h, expand_congr (agreeFrom_erase (hb.not_leads_bound h))]

/-! ## The end of replacing -/

theorem expanded_var : b.Expanded id (.var x) ↔ x ≠ id → b.get? x = none := by
  constructor
  · intro h
    exact h x (by simp [InferredType.mentions])
  · intro h y hy
    obtain rfl : x = y := by simpa [InferredType.mentions] using hy
    exact h

theorem expanded_cast :
    b.Expanded id (.cast input result) ↔ b.Expanded id input ∧ b.Expanded id result := by
  simp only [Expanded, InferredType.mentions, Bool.or_eq_true, or_imp, forall_and]

theorem expand_of_expanded (h : b.Expanded id ty) : b.expand id ty = ty := by
  induction ty with
  | column column => exact expand_column column
  | oneOf alternatives => exact expand_oneOf alternatives
  | cast input result ihinput ihresult =>
    obtain ⟨hinput, hresult⟩ := expanded_cast.mp h
    rw [expand_cast, ihinput hinput, ihresult hresult]
  | var x =>
    by_cases hx : x = id
    · rw [hx, expand_var_self]
    · exact expand_var_none (expanded_var.mp h hx)

theorem replaces_cast (hinput : ReflTransGen (b.Replaces id) input input')
    (hresult : ReflTransGen (b.Replaces id) result result') :
    ReflTransGen (b.Replaces id) (.cast input result) (.cast input' result') := by
  have hfirst : ReflTransGen (b.Replaces id) (.cast input result) (.cast input' result) :=
    hinput.lift (InferredType.cast · result) fun _ _ h => .input result h
  have hsecond : ReflTransGen (b.Replaces id) (.cast input' result) (.cast input' result') :=
    hresult.lift (InferredType.cast input') fun _ _ h => .result input' h
  exact hfirst.trans hsecond

section Acyclic

variable (hb : b.Acyclic)
include hb

/-- Replacing leads to the expanded type. -/
theorem Acyclic.replaces_expand (id : VarId) (ty : InferredType) :
    ReflTransGen (b.Replaces id) ty (b.expand id ty) ∧ b.Expanded id (b.expand id ty) := by
  induction ty using hb.induction with
  | column column => simp [ReflTransGen.refl, Expanded, InferredType.mentions]
  | oneOf alternatives => simp [ReflTransGen.refl, Expanded, InferredType.mentions]
  | cast input result ihinput ihresult =>
    rw [expand_cast, expanded_cast]
    exact ⟨replaces_cast ihinput.1 ihresult.1, ihinput.2, ihresult.2⟩
  | unbound x h =>
    rw [expand_var_none h]
    exact ⟨.refl, expanded_var.mpr fun _ => h⟩
  | bound x bound h ih =>
    by_cases hx : x = id
    · rw [hx, expand_var_self]
      exact ⟨.refl, expanded_var.mpr fun hne => absurd rfl hne⟩
    · rw [hb.expand_bound hx h]
      exact ⟨.head (.var hx h) ih.1, ih.2⟩

theorem Acyclic.expand_eq_of_replaces (h : b.Replaces id ty ty') :
    b.expand id ty = b.expand id ty' := by
  induction h with
  | var hx h => exact hb.expand_bound hx h
  | input result _ ih => rw [expand_cast, expand_cast, ih]
  | result input _ ih => rw [expand_cast, expand_cast, ih]

theorem Acyclic.expand_eq_of_reflTransGen (h : ReflTransGen (b.Replaces id) ty ty') :
    b.expand id ty = b.expand id ty' := by
  induction h with
  | refl => rfl
  | tail _ hstep ih => rw [ih, hb.expand_eq_of_replaces hstep]

/-- In whatever order variables are replaced, the type in the end is the expanded one. -/
theorem Acyclic.replaces_to_iff :
    ReflTransGen (b.Replaces id) ty ty' ∧ b.Expanded id ty' ↔ ty' = b.expand id ty := by
  constructor
  · rintro ⟨hpath, hend⟩
    rw [hb.expand_eq_of_reflTransGen hpath, expand_of_expanded hend]
  · rintro rfl
    exact hb.replaces_expand id ty

/-- There is no end of replacing only where a variable leads back to itself. -/
theorem Acyclic.wellFounded_replaces (id : VarId) :
    WellFounded fun after before => b.Replaces id before after := by
  refine ⟨fun ty => ?_⟩
  induction ty using hb.induction with
  | column column => exact ⟨_, fun after h => nomatch h⟩
  | oneOf alternatives => exact ⟨_, fun after h => nomatch h⟩
  | cast input result ihinput ihresult =>
    -- a step is made in the input or in the result
    induction ihinput generalizing result with
    | intro input _ ihinput =>
      induction ihresult with
      | intro result hresult ihresult =>
        refine ⟨_, fun after h => ?_⟩
        cases h with
        | input _ h => exact ihinput _ h result ⟨_, hresult⟩
        | result _ h => exact ihresult _ h
  | unbound x h =>
    refine ⟨_, fun after hafter => ?_⟩
    cases hafter with
    | var _ hbound => simp [h] at hbound
  | bound x bound h ih =>
    refine ⟨_, fun after hafter => ?_⟩
    cases hafter with
    | var _ hbound =>
      rw [h, Option.some.injEq] at hbound
      exact hbound ▸ ih

theorem Acyclic.occurs_eq_mentions (id : VarId) (ty : InferredType) :
    b.occurs id ty = (b.expand id ty).mentions id := by
  induction ty using hb.induction with
  | column column => simp [occurs, InferredType.mentions]
  | oneOf alternatives => simp [occurs, InferredType.mentions]
  | cast input result ihinput ihresult => simp [InferredType.mentions, ihinput, ihresult]
  | unbound x h => rw [occurs_var_none h, expand_var_none h, InferredType.mentions]
  | bound x bound h ih =>
    rw [hb.occurs_bound h]
    by_cases hx : x = id
    · simp [hx, InferredType.mentions]
    · rw [hb.expand_bound hx h, ← ih, beq_false_of_ne hx, Bool.false_or]

/-- A variable occurs in a type exactly if it is mentioned there or reached from a variable that is
mentioned there, and exactly if it stands in the type in which all other bound variables have been
replaced until none was left. The replacing ends in every order, with the same type; and looking for
the variable ends as well if no binding is taken out on the way. -/
theorem Acyclic.occurs_iff_reached (id : VarId) (ty : InferredType) :
    (b.occurs id ty = true ↔
        ty.mentions id = true ∨ ∃ v, ty.mentions v = true ∧ TransGen b.Refers v id) ∧
      (WellFounded fun after before => b.Replaces id before after) ∧
      (∀ ty', ReflTransGen (b.Replaces id) ty ty' ∧ b.Expanded id ty' ↔ ty' = b.expand id ty) ∧
      (b.occurs id ty = true ↔ (b.expand id ty).mentions id = true) ∧
      Ends (b.occursLoop id · ty) (b.occurs id ty) := by
  refine ⟨?_, hb.wellFounded_replaces id, fun ty' => hb.replaces_to_iff, ?_,
    hb.occursLoop_ends id ty⟩
  · rw [hb.occurs_iff, Leads]
    constructor
    · rintro ⟨v, hv, hpath⟩
      rcases reflTransGen_iff_eq_or_transGen.mp hpath with rfl | hpath
      · exact Or.inl hv
      · exact Or.inr ⟨v, hv, hpath⟩
    · rintro (hid | ⟨v, hv, hpath⟩)
      · exact ⟨id, hid, .refl⟩
      · exact ⟨v, hv, hpath.to_reflTransGen⟩
  · rw [hb.occurs_eq_mentions]

end Acyclic

/-- A variable that is bound itself is found behind two casts, and stays in the expanded type. -/
theorem Acyclic.occurs_iff_reached_of_bound :
    let b := ((empty.insert 2 (.var 3)).insert 1 (.cast (.var 2) (.var 4))).insert 0
      (.cast (.column .unknown) (.var 1))
    b.Acyclic ∧ b.occurs 2 (.var 0) = true ∧
      (∃ v, (InferredType.var 0).mentions v = true ∧ TransGen b.Refers v 2) ∧
      b.expand 2 (.var 0) = .cast (.column .unknown) (.cast (.var 2) (.var 4)) ∧
      ∀ ty', ReflTransGen (b.Replaces 2) (.var 0) ty' ∧ b.Expanded 2 ty' ↔
        ty' = .cast (.column .unknown) (.cast (.var 2) (.var 4)) := by
  intro b
  have hfirst : (empty.insert 2 (.var 3)).Acyclic :=
    acyclic_empty.insert (acyclic_empty.not_occurs_iff.mp (by decide +kernel))
  have hsecond : ((empty.insert 2 (.var 3)).insert 1 (.cast (.var 2) (.var 4))).Acyclic :=
    hfirst.insert (hfirst.not_occurs_iff.mp (by decide +kernel))
  have hb : b.Acyclic := hsecond.insert (hsecond.not_occurs_iff.mp (by decide +kernel))
  have hexpand : b.expand 2 (.var 0) = .cast (.column .unknown) (.cast (.var 2) (.var 4)) := by
    decide +kernel
  obtain ⟨hreached, -, hends, hmentions, -⟩ := hb.occurs_iff_reached 2 (.var 0)
  rw [hexpand] at hends hmentions
  have hoccurs : b.occurs 2 (.var 0) = true := hmentions.mpr (by decide)
  refine ⟨hb, hoccurs, ?_, hexpand, hends⟩
  exact (hreached.mp hoccurs).resolve_left (by decide)

end Bindings

end QueryTyping
