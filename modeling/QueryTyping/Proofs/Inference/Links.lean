import QueryTyping.Proofs.Inference.Concrete
import QueryTyping.Proofs.Inference.Session

/-!
# Variables that are bound to variables

A variable that is bound to a variable stays bound to it: unifications write only to roots, and a
root is not bound to a variable. Two variables with the same root are therefore one variable from
then on (`KeepsLinks.chain_eq`). A unification makes two variables one only if both are without a
type; where one of them has a type, the combined type is copied (`Acyclic.linked_unify_iff`).
-/

namespace QueryTyping

namespace Bindings

variable {b b' : Bindings} {v w x y : VarId} {t l r c : InferredType}

/-- The two variables come to the same variable. -/
def Linked (b : Bindings) (x y : VarId) : Prop := b.root (.var x) = b.root (.var y)

/-- Nothing is known yet about what the variable stands for. -/
def Open (b : Bindings) (x : VarId) : Prop := ∃ y, b.resolve (.var x) = .var y

/-- Variables that are bound to variables stay bound to them. -/
def KeepsLinks (b b' : Bindings) : Prop :=
  ∀ v w, b.get? v = some (.var w) → b'.get? v = some (.var w)

/-! ## Links are kept -/

theorem KeepsLinks.trans {b₁ : Bindings} (h : b.KeepsLinks b₁) (h' : b₁.KeepsLinks b') :
    b.KeepsLinks b' :=
  fun v w hv => h' v w (h v w hv)

/-- Where links are kept, a root goes on speaking for the variables that lead to it. -/
theorem KeepsLinks.chain_eq (h : b.KeepsLinks b') (hb : b.Acyclic) (hb' : b'.Acyclic)
    (hroot : b.root t = some x) : b'.chain t = b'.chain (.var x) := by
  induction t using hb.induction with
  | column ty => simp [root, Chain.root] at hroot
  | oneOf alternatives => simp [root, Chain.root] at hroot
  | cast input result _ _ => simp [root, Chain.root] at hroot
  | unbound id hid =>
    simp only [root, chain_var_none hid, Chain.root, Option.some.injEq] at hroot
    rw [hroot]
  | bound id ty hid ih =>
    rw [root, hb.chain_bound hid] at hroot
    cases htype : b.root ty with
    | none =>
      rw [Chain.root_rootAt_of_root_eq_none htype, Option.some.injEq] at hroot
      rw [hroot]
    | some y =>
      rw [Chain.rootAt_of_root_eq_some htype] at hroot
      -- only a variable has a root
      cases ty with
      | column ty => simp [root, Chain.root] at htype
      | oneOf alternatives => simp [root, Chain.root] at htype
      | cast input result => simp [root, Chain.root] at htype
      | var w => rw [hb'.chain_var_link (h id w hid), ih hroot]

/-- A successful unification writes to no variable that is bound to a variable. -/
theorem Combines.keepsLinks (hb : b.Acyclic) (h : Combines b l r c b') : b.KeepsLinks b' := by
  intro v w hv
  induction h with
  | same _ _ => exact hv
  | ends _ => exact hv
  | bindLeft hl _ =>
    rw [get?_insert, if_neg, hv]
    rintro rfl
    simp [hb.get?_of_resolve_eq_var hl] at hv
  | bindRight hr _ =>
    rw [get?_insert, if_neg, hv]
    rintro rfl
    simp [hb.get?_of_resolve_eq_var hr] at hv
  | openLeft _ _ _ ih => rwa [get?_assignRoot_of_ne fun hroot => hb.root_not_bound_to_var hroot hv]
  | openRight _ _ _ ih => rwa [get?_assignRoot_of_ne fun hroot => hb.root_not_bound_to_var hroot hv]

theorem Acyclic.keepsLinks_unify (hb : b.Acyclic) (h : b.unify l r = (.ok c, b')) :
    b.KeepsLinks b' := by
  obtain ⟨b₁, hcombines, rfl⟩ := hb.unify_ok h
  intro v w hv
  rw [get?_assignRoot_of_ne fun hroot => hb.root_not_bound_to_var hroot hv,
    get?_assignRoot_of_ne fun hroot => hb.root_not_bound_to_var hroot hv]
  exact hcombines.keepsLinks hb v w hv

/-! ## When variables become one -/

/-- Nothing is known about the combined type only if nothing is known about either side. -/
theorem Combines.resolve_eq_var (h : Combines b l r (.var w) b') :
    (∃ x, b.resolve l = .var x) ∧ ∃ y, b.resolve r = .var y := by
  generalize hc : InferredType.var w = c at h
  cases h with
  | same hl hr => exact ⟨⟨_, hl⟩, _, hr⟩
  | bindLeft hl _ => exact ⟨⟨_, hl⟩, w, hc.symm⟩
  | bindRight hr _ => exact ⟨⟨w, hc.symm⟩, _, hr⟩
  | ends h =>
    rw [← hc] at h
    exact (InferredType.meet_alternatives_ne_nil h rfl).elim
  | openLeft _ _ _ => cases hc
  | openRight _ _ _ => cases hc

theorem get?_of_assignRoot_eq_var {root : Option VarId} (hc : ∀ z, c ≠ .var z)
    (h : (b.assignRoot root c).get? v = some (.var w)) : b.get? v = some (.var w) := by
  by_cases hroot : root = some v
  · subst hroot
    rw [assignRoot, assign] at h
    split at h
    · exact h
    · simp [get?_insert, hc w] at h
  · rwa [get?_assignRoot_of_ne hroot] at h

/-- A combined type about which something is known makes no new link. -/
theorem Combines.get?_eq_var (hb : b.Acyclic) (h : Combines b l r c b') (hc : ∀ z, c ≠ .var z)
    (hv : b'.get? v = some (.var w)) : b.get? v = some (.var w) := by
  induction h with
  | same _ _ => exact hv
  | ends _ => exact hv
  | bindLeft _ _ =>
    rw [get?_insert] at hv
    split at hv
    · exact (hc w (Option.some.inj hv)).elim
    · exact hv
  | bindRight _ _ =>
    rw [get?_insert] at hv
    split at hv
    · exact (hc w (Option.some.inj hv)).elim
    · exact hv
  | @openLeft l r input result c b₁ _ hr h ih =>
    -- something is known about the right side, hence about what stands under the cast
    have hc₁ : ∀ z, c ≠ .var z := by
      rintro z rfl
      obtain ⟨-, y, hy⟩ := h.resolve_eq_var
      exact hr y (hb.resolve_resolve r ▸ hy)
    exact ih hc₁ (get?_of_assignRoot_eq_var hc₁ hv)
  | @openRight l r input result c b₁ hl _ h ih =>
    have hc₁ : ∀ z, c ≠ .var z := by
      rintro z rfl
      obtain ⟨-, y, hy⟩ := h.resolve_eq_var
      exact hl.1 y (hb.resolve_resolve l ▸ hy)
    exact ih hc₁ (get?_of_assignRoot_eq_var hc₁ hv)

/-- A variable that is not bound to a variable is its own root. -/
theorem Acyclic.root_eq_self (hb : b.Acyclic) (h : ∀ w, b.get? v ≠ some (.var w)) :
    b.root (.var v) = some v := by
  cases hv : b.get? v with
  | none => simp [root, hv, Chain.root]
  | some ty =>
    rw [root, hb.chain_bound hv]
    refine Chain.root_rootAt_of_root_eq_none ?_
    cases ty with
    | column ty => simp [Chain.root]
    | oneOf alternatives => simp [Chain.root]
    | cast input result => simp [Chain.root]
    | var w => exact (h w hv).elim

/-- Where something is known about the combined type, all roots stay what they are. -/
theorem Acyclic.root_unify (hb : b.Acyclic) (h : b.unify l r = (.ok c, b')) (hc : ∀ z, c ≠ .var z)
    (t : InferredType) : b'.root t = b.root t := by
  have hb' := hb.of_unify h
  cases hroot : b.root t with
  | some z =>
    have hself : b'.root (.var z) = some z := by
      obtain ⟨b₁, hcombines, rfl⟩ := hb.unify_ok h
      refine hb'.root_eq_self fun w hw => hb.root_not_bound_to_var (y := w) hroot ?_
      exact hcombines.get?_eq_var hb hc
        (get?_of_assignRoot_eq_var hc (get?_of_assignRoot_eq_var hc hw))
    rw [root, (hb.keepsLinks_unify h).chain_eq hb hb' hroot]
    exact hself
  | none =>
    cases t with
    | column ty => simp [root, Chain.root]
    | oneOf alternatives => simp [root, Chain.root]
    | cast input result => simp [root, Chain.root]
    | var id =>
      obtain ⟨z, hz⟩ := exists_root_var b id
      cases hroot.symm.trans hz

theorem KeepsLinks.linked (h : b.KeepsLinks b') (hb : b.Acyclic) (hb' : b'.Acyclic)
    (hxy : b.Linked x y) : b'.chain (.var x) = b'.chain (.var y) := by
  obtain ⟨z, hz⟩ := exists_root_var b x
  have hz' : b.root (.var y) = some z := hxy ▸ hz
  rw [h.chain_eq hb hb' hz, h.chain_eq hb hb' hz']

/-- The variable that is bound comes to the one that it is bound to. -/
theorem Acyclic.linked_bind (hb : b.Acyclic) (hb' : b'.Acyclic) (hkept : b.KeepsLinks b')
    (hx : b.resolve (.var x) = .var v) (hy : b.resolve (.var y) = .var w)
    (h : b'.get? v = some (.var w)) : b'.Linked x y := by
  unfold Linked root
  rw [hkept.chain_eq hb hb' (root_of_resolve_eq_var hx),
    hkept.chain_eq hb hb' (root_of_resolve_eq_var hy), hb'.chain_var_link h]

/-- Two variables about which nothing is known are one after they were unified. -/
theorem Acyclic.linked_unify_of_open (hb : b.Acyclic) (hb' : b'.Acyclic)
    (h : b.unify (.var x) (.var y) = (.ok c, b')) (hx : b.resolve (.var x) = .var v)
    (hy : b.resolve (.var y) = .var w) (hvw : v ≠ w) : b'.Linked x y := by
  have hkept := hb.keepsLinks_unify h
  obtain ⟨b₁, hcombines, hwritten⟩ := hb.unify_ok h
  rw [root_of_resolve_eq_var hx, root_of_resolve_eq_var hy] at hwritten
  cases hcombines with
  | same hl hr =>
    rw [hx, InferredType.var.injEq] at hl
    rw [hy, InferredType.var.injEq] at hr
    exact (hvw (hl.trans hr.symm)).elim
  | bindLeft hl _ =>
    rw [hx, InferredType.var.injEq] at hl
    subst hl
    rw [hy] at hwritten
    refine hb.linked_bind hb' hkept hx hy ?_
    rw [hwritten]
    exact get?_assignRoot_of_get? (get?_assignRoot_of_get? (by simp [get?_insert]))
  | bindRight hr _ =>
    rw [hy, InferredType.var.injEq] at hr
    subst hr
    rw [hx] at hwritten
    refine (hb.linked_bind hb' hkept hy hx ?_).symm
    rw [hwritten]
    exact get?_assignRoot_of_get? (get?_assignRoot_of_get? (by simp [get?_insert]))
  | ends h => simp [hx, InferredType.meet] at h
  | openLeft hl _ _ => simp [hx] at hl
  | openRight _ hr _ => simp [hy] at hr

/-- Two variables become one only if nothing is known about either. -/
theorem Acyclic.linked_unify_iff (hb : b.Acyclic) (h : b.unify (.var x) (.var y) = (.ok c, b')) :
    b'.Linked x y ↔ b.Linked x y ∨ b.Open x ∧ b.Open y := by
  have hb' := hb.of_unify h
  have hkept := hb.keepsLinks_unify h
  constructor
  · intro hlinked
    by_contra hnot
    obtain ⟨hunlinked, hknown⟩ := not_or.mp hnot
    obtain ⟨b₁, hcombines, -⟩ := hb.unify_ok h
    have hc : ∀ z, c ≠ .var z := by
      rintro z rfl
      exact hknown hcombines.resolve_eq_var
    refine hunlinked ?_
    rwa [Linked, hb.root_unify h hc, hb.root_unify h hc] at hlinked
  · rintro (hlinked | ⟨⟨v, hv⟩, w, hw⟩)
    · exact congrArg Chain.root (hkept.linked hb hb' hlinked)
    · by_cases hvw : v = w
      · subst hvw
        have hlinked : b.Linked x y :=
          (root_of_resolve_eq_var hv).trans (root_of_resolve_eq_var hw).symm
        exact congrArg Chain.root (hkept.linked hb hb' hlinked)
      · exact hb.linked_unify_of_open hb' h hv hw hvw

end Bindings

end QueryTyping
