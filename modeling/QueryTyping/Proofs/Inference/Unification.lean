import QueryTyping.Inference.Context
import QueryTyping.Proofs.Inference.Meet
import QueryTyping.Proofs.Inference.Reading

/-!
# What a unification does

`Combines b l r c b'` lists the ways in which two types can be combined: the rules for variables,
for two types that are neither variables nor casts, and for a cast that is opened. Every success
of `unify` is an instance of it, followed by two assignments to roots (`Acyclic.unify_ok`), and a
failure leaves the bindings as they were (`unify_error`).
-/

namespace QueryTyping

namespace Bindings

variable {b b' : Bindings} {id x y : VarId} {l r c : InferredType}

/-- Under the bindings `b` the types `l` and `r` combine to `c`, which leaves the bindings `b'`. -/
inductive Combines (b : Bindings) :
    InferredType → InferredType → InferredType → Bindings → Prop where
  /-- Both are the same variable without binding. -/
  | same {l r : InferredType} {x : VarId} (hl : b.resolve l = .var x)
      (hr : b.resolve r = .var x) : Combines b l r (.var x) b
  /-- A variable on the left is bound to what stands on the right. -/
  | bindLeft {l r : InferredType} {x : VarId} (hl : b.resolve l = .var x)
      (h : ¬b.Leads (b.resolve r) x) :
      Combines b l r (b.resolve r) (b.insert x (b.resolve r))
  /-- A variable on the right is bound to what stands on the left. -/
  | bindRight {l r : InferredType} {y : VarId} (hr : b.resolve r = .var y)
      (h : ¬b.Leads (b.resolve l) y) :
      Combines b l r (b.resolve l) (b.insert y (b.resolve l))
  /-- Two types that are neither variables nor casts. -/
  | ends {l r c : InferredType} (h : (b.resolve l).meet (b.resolve r) = some c) :
      Combines b l r c b
  /-- The cast on the left is opened; the root of its result is written. -/
  | openLeft {l r input result c : InferredType} {b₁ : Bindings}
      (hl : b.resolve l = .cast input result)
      (hr : ∀ y, b.resolve r ≠ .var y)
      (h : Combines b result (b.resolve r) c b₁) :
      Combines b l r (.cast input c) (b₁.assignRoot (b.root result) c)
  /-- The cast on the right is opened, against a type that is neither variable nor cast. -/
  | openRight {l r input result c : InferredType} {b₁ : Bindings}
      (hl : (∀ x, b.resolve l ≠ .var x) ∧ (b.resolve l).isCast = false)
      (hr : b.resolve r = .cast input result)
      (h : Combines b result (b.resolve l) c b₁) :
      Combines b l r (.cast input c) (b₁.assignRoot (b.root result) c)

/-! ## Failures -/

theorem bind_error {ty : InferredType} {error : TypeError} (h : b.bind id ty = (.error error, b')) :
    b' = b := by
  unfold bind at h
  split at h
  · exact (Prod.mk.inj h).2.symm
  · cases (Prod.mk.inj h).1

theorem ofOption_error {o : Option InferredType} {error : TypeError}
    (h : Unified.ofOption b l r o = (.error error, b')) : b' = b := by
  cases o with
  | none => exact (Prod.mk.inj h).2.symm
  | some ty => cases (Prod.mk.inj h).1

theorem settle_error {unified : Unified} {left right : Option VarId} {error : TypeError}
    (h : unified.settle left right = (.error error, b')) : unified = (.error error, b') := by
  obtain ⟨_ | _, _⟩ := unified
  · exact h
  · cases (Prod.mk.inj h).1

theorem underCast_error {unified : Unified} {input : InferredType} {error : TypeError}
    (h : unified.underCast input = (.error error, b')) : unified = (.error error, b') := by
  obtain ⟨_ | _, _⟩ := unified
  · exact h
  · cases (Prod.mk.inj h).1

theorem combine_error {left right : Chain} {error : TypeError}
    (h : left.combine right b = (.error error, b')) : b' = b := by
  fun_induction Chain.combine left right b with
  | case1 => cases (Prod.mk.inj h).1
  | case2 => exact bind_error h
  | case3 => exact bind_error h
  | case4 => exact bind_error h
  | case5 => exact ofOption_error h
  | case6 => exact ofOption_error h
  | case7 => exact ofOption_error h
  | case8 => exact ofOption_error h
  | case9 _ _ _ _ _ _ ih => exact ih (settle_error (underCast_error h))
  | case10 _ _ _ _ _ _ _ ih => exact ih (settle_error (underCast_error h))

/-- A failed unification leaves the bindings as they were. -/
theorem unify_error {error : TypeError} (h : b.unify l r = (.error error, b')) : b' = b :=
  combine_error (settle_error h)

/-! ## Successes -/

theorem Acyclic.bind_ok (hb : b.Acyclic) {ty : InferredType} (h : b.bind id ty = (.ok c, b')) :
    ¬b.Leads ty id ∧ c = ty ∧ b' = b.insert id ty := by
  unfold bind at h
  split at h
  · cases (Prod.mk.inj h).1
  · next hoccurs =>
    obtain ⟨hc, hb'⟩ := Prod.mk.inj h
    refine ⟨fun hleads => hoccurs (hb.occurs_iff.mpr hleads), ?_, hb'.symm⟩
    exact (Except.ok.inj hc).symm

theorem ofOption_ok {o : Option InferredType}
    (h : Unified.ofOption b l r o = (.ok c, b')) : o = some c ∧ b' = b := by
  cases o with
  | none => cases (Prod.mk.inj h).1
  | some ty =>
    obtain ⟨hc, hb'⟩ := Prod.mk.inj h
    exact ⟨congrArg some (Except.ok.inj hc), hb'.symm⟩

theorem settle_ok {unified : Unified} {left right : Option VarId}
    (h : unified.settle left right = (.ok c, b')) :
    ∃ b₁, unified = (.ok c, b₁) ∧ b' = (b₁.assignRoot left c).assignRoot right c := by
  obtain ⟨_ | ty, b₁⟩ := unified
  · cases (Prod.mk.inj h).1
  · obtain ⟨hc, hb'⟩ := Prod.mk.inj h
    cases hc
    exact ⟨b₁, rfl, hb'.symm⟩

theorem underCast_ok {unified : Unified} {input : InferredType}
    (h : unified.underCast input = (.ok c, b')) :
    ∃ result, c = .cast input result ∧ unified = (.ok result, b') := by
  obtain ⟨_ | ty, b₁⟩ := unified
  · cases (Prod.mk.inj h).1
  · obtain ⟨hc, hb'⟩ := Prod.mk.inj h
    cases hc
    exact ⟨ty, rfl, by rw [hb']⟩

/-- The opened cast, with what was unified under it. -/
theorem opened_ok {unified : Unified} {input : InferredType} {left right : Option VarId}
    (h : (unified.settle left right).underCast input = (.ok c, b')) (hright : right = none) :
    ∃ result b₁, c = .cast input result ∧ unified = (.ok result, b₁) ∧
      b' = b₁.assignRoot left result := by
  obtain ⟨result, hc, hsettle⟩ := underCast_ok h
  obtain ⟨b₁, hunified, hb'⟩ := settle_ok hsettle
  exact ⟨result, b₁, hc, hunified, by rw [hb', hright]; rfl⟩

theorem root_detach_of_not_unbound {chain : Chain} (h : ∀ y, chain = .unbound y → False) :
    chain.detach.root = none := by
  cases chain with
  | column root _ => rfl
  | oneOf root _ => rfl
  | unbound id => exact (h id rfl).elim
  | cast root _ _ _ => rfl

theorem resolve_ne_var {chain : Chain} (hty : b.chain l = chain)
    (h : ∀ y, chain = .unbound y → False) : ∀ y, b.resolve l ≠ .var y := by
  intro y hy
  rw [← type_chain, hty] at hy
  cases chain with
  | column root _ => cases hy
  | oneOf root _ => cases hy
  | unbound id => exact h id rfl
  | cast root _ _ _ => cases hy

theorem isCast_resolve_eq_false {chain : Chain} (hty : b.chain l = chain)
    (h : ∀ root input result inner, chain = .cast root input result inner → False) :
    (b.resolve l).isCast = false := by
  rw [← type_chain, hty]
  cases chain with
  | column => rfl
  | oneOf => rfl
  | unbound => rfl
  | cast root input result inner => exact (h root input result inner rfl).elim

theorem combines_of_ofOption {left right l' r' : InferredType} (hl : b.resolve l = left)
    (hr : b.resolve r = right) (h : Unified.ofOption b l' r' (left.meet right) = (.ok c, b')) :
    Combines b l r c b' := by
  obtain ⟨ho, hb'⟩ := ofOption_ok h
  rw [hb']
  exact .ends (by rw [hl, hr]; exact ho)

theorem Acyclic.combine_ok (hb : b.Acyclic) {left right : Chain} (hl : b.chain l = left)
    (hr : b.chain r = right) (h : left.combine right b = (.ok c, b')) :
    Combines b l r c b' := by
  have hleft : b.resolve l = left.type := by rw [← type_chain, hl]
  have hright : b.resolve r = right.type := by rw [← type_chain, hr]
  fun_induction Chain.combine left right b generalizing l r c b' with
  | case1 x =>
    -- the same variable on both sides: nothing is bound
    obtain ⟨hc, hb'⟩ := Prod.mk.inj h
    cases hc
    exact hb' ▸ .same hleft hright
  | case2 x y _ =>
    obtain ⟨hleads, hc, hb'⟩ := hb.bind_ok h
    rw [hc, hb', ← show b.resolve r = .var y from hright]
    exact .bindLeft hleft (by rw [hright]; exact hleads)
  | case3 x right _ =>
    obtain ⟨hleads, hc, hb'⟩ := hb.bind_ok h
    rw [hc, hb', ← hright]
    exact .bindLeft hleft (by rw [hright]; exact hleads)
  | case4 left y _ =>
    obtain ⟨hleads, hc, hb'⟩ := hb.bind_ok h
    rw [hc, hb', ← hleft]
    exact .bindRight hright (by rw [hleft]; exact hleads)
  | case5 => exact combines_of_ofOption hleft hright h
  | case6 => exact combines_of_ofOption hleft hright h
  | case7 => exact combines_of_ofOption hleft hright h
  | case8 => exact combines_of_ofOption hleft hright h
  | case9 root input result inner right hvar ih =>
    -- the right side goes down without its root, so only the result of the cast can be written
    obtain ⟨c₁, b₁, rfl, hcombine, hb'⟩ := opened_ok h (root_detach_of_not_unbound hvar)
    obtain ⟨rfl, -⟩ := hb.eq_chain_of_cast hl
    have hdetach : b.chain (b.resolve r) = right.detach := by rw [← hb.detach_chain, hr]
    rw [hb']
    refine .openLeft hleft (resolve_ne_var hr hvar) (ih rfl hdetach hcombine ?_ ?_)
    · rw [← type_chain]
    · rw [← type_chain, hdetach]
  | case10 left root input result inner hvar hcast ih =>
    obtain ⟨c₁, b₁, rfl, hcombine, hb'⟩ := opened_ok h (root_detach_of_not_unbound hvar)
    obtain ⟨rfl, -⟩ := hb.eq_chain_of_cast hr
    have hdetach : b.chain (b.resolve l) = left.detach := by rw [← hb.detach_chain, hl]
    have hplain := isCast_resolve_eq_false hl hcast
    rw [hb']
    refine .openRight ⟨resolve_ne_var hl hvar, hplain⟩ hright (ih rfl hdetach hcombine ?_ ?_)
    · rw [← type_chain]
    · rw [← type_chain, hdetach]

theorem Combines.acyclic (hb : b.Acyclic) (h : Combines b l r c b') : b'.Acyclic := by
  induction h with
  | same _ _ => exact hb
  | bindLeft _ h => exact hb.insert h
  | bindRight _ h => exact hb.insert h
  | ends _ => exact hb
  | openLeft _ _ _ ih => exact ih.assignRoot _
  | openRight _ _ _ ih => exact ih.assignRoot _

theorem get?_assignRoot_of_ne {root : Option VarId} (h : root ≠ some x) :
    (b.assignRoot root c).get? x = b.get? x := by
  cases root with
  | none => rfl
  | some id =>
    rw [assignRoot, assign]
    split
    · rfl
    · rw [get?_insert, if_neg]
      rintro rfl
      exact h rfl

theorem get?_assignRoot_of_get? {root : Option VarId} (h : b.get? x = some c) :
    (b.assignRoot root c).get? x = some c := by
  by_cases hroot : root = some x
  · subst hroot
    rw [assignRoot, assign]
    split
    · exact h
    · simp [get?_insert]
  · rw [get?_assignRoot_of_ne hroot, h]

/-- Only the variables through which the two types are read are written. -/
theorem Combines.get?_eq (hb : b.Acyclic) (h : Combines b l r c b') (hl : x ∉ b.roots l)
    (hr : x ∉ b.roots r) : b'.get? x = b.get? x := by
  induction h with
  | same _ _ => rfl
  | ends _ => rfl
  | bindLeft hvar _ =>
    rw [get?_insert, if_neg]
    rintro rfl
    exact hl (mem_roots_of_root (root_of_resolve_eq_var hvar))
  | bindRight hvar _ =>
    rw [get?_insert, if_neg]
    rintro rfl
    exact hr (mem_roots_of_root (root_of_resolve_eq_var hvar))
  | @openLeft l r input result c b₁ hcast _ _ ih =>
    have hresult : x ∉ b.roots result := fun hx =>
      hl (hb.roots_resolve_subset l (by rw [hcast, roots_cast]; exact hx))
    rw [get?_assignRoot_of_ne fun hroot => hresult (mem_roots_of_root hroot)]
    exact ih hresult fun hx => hr (hb.roots_resolve_subset r hx)
  | @openRight l r input result c b₁ _ hcast _ ih =>
    have hresult : x ∉ b.roots result := fun hx =>
      hr (hb.roots_resolve_subset r (by rw [hcast, roots_cast]; exact hx))
    rw [get?_assignRoot_of_ne fun hroot => hresult (mem_roots_of_root hroot)]
    exact ih hresult fun hx => hl (hb.roots_resolve_subset l hx)

/-- What a successful unification did: it combined the two types and wrote the result to their
roots. -/
theorem Acyclic.unify_ok (hb : b.Acyclic) (h : b.unify l r = (.ok c, b')) :
    ∃ b₁, Combines b l r c b₁ ∧ b' = (b₁.assignRoot (b.root l) c).assignRoot (b.root r) c := by
  obtain ⟨b₁, hcombine, hb'⟩ := settle_ok h
  exact ⟨b₁, hb.combine_ok rfl rfl hcombine, hb'⟩

theorem Acyclic.get?_unify (hb : b.Acyclic) (h : b.unify l r = (.ok c, b'))
    (hl : x ∉ b.roots l) (hr : x ∉ b.roots r) : b'.get? x = b.get? x := by
  obtain ⟨b₁, hcombines, rfl⟩ := hb.unify_ok h
  rw [get?_assignRoot_of_ne fun hroot => hr (mem_roots_of_root hroot),
    get?_assignRoot_of_ne fun hroot => hl (mem_roots_of_root hroot), hcombines.get?_eq hb hl hr]

/-- No unification makes a cycle, whether it succeeds or fails. -/
theorem Acyclic.unify (hb : b.Acyclic) (l r : InferredType) : (b.unify l r).2.Acyclic := by
  rcases hunify : b.unify l r with ⟨outcome, b'⟩
  cases outcome with
  | error error => exact unify_error hunify ▸ hb
  | ok c =>
    obtain ⟨b₁, hcombines, hb'⟩ := hb.unify_ok hunify
    rw [hb']
    exact ((hcombines.acyclic hb).assignRoot _).assignRoot _

theorem Acyclic.of_unify (hb : b.Acyclic) (h : b.unify l r = (.ok c, b')) : b'.Acyclic := by
  have hb' := hb.unify l r
  rwa [h] at hb'

end Bindings

end QueryTyping
