import QueryTyping.Proofs.Inference.Alternatives
import QueryTyping.Proofs.Inference.Casts
import QueryTyping.Proofs.Inference.Endings

/-!
# How a unification comes out

Where each of two types comes to a variable without binding, or to casts around a type that is
neither a variable nor a cast, the outcome of unifying them can be told beforehand. A variable is
bound unless the other type leads to it (`Acyclic.unify_var_left`, `Acyclic.unify_var_right`). Two
types with casts combine if some of their alternatives go together, and the casts of both are kept
(`Acyclic.unify_casts`).

In the end the combined type is written to both roots, in an order that makes no difference
(`Acyclic.get?_assignRoots`).
-/

namespace QueryTyping

open ColumnType (meets)

namespace Bindings

variable {b b' : Bindings} {w x : VarId} {l r t c e f : InferredType}
  {inputs inputs' : List InferredType} {root left right : Option VarId}

/-! ## Writing to roots -/

theorem get?_assignRoot (b : Bindings) (root : Option VarId) (c : InferredType) (w : VarId) :
    (b.assignRoot root c).get? w =
      if root = some w ∧ b.occurs w c = false then some c else b.get? w := by
  by_cases hroot : root = some w
  · subst hroot
    rw [assignRoot, assign]
    cases hoccurs : b.occurs w c with
    | true => simp
    | false => simp [get?_insert]
  · rw [get?_assignRoot_of_ne hroot, if_neg fun h => hroot h.1]

/-- Writing a type does not change what it leads to. -/
theorem Acyclic.occurs_assignRoot (hb : b.Acyclic) :
    (b.assignRoot root c).occurs w c = b.occurs w c := by
  rcases hb.assignRoot_cases root c with hkept | ⟨x, -, hleads, hwritten⟩
  · rw [hkept]
  · rw [hwritten, occurs_congr (agreeFrom_insert hleads)]

theorem Acyclic.get?_assignRoots (hb : b.Acyclic) (left right : Option VarId) (c : InferredType)
    (w : VarId) :
    ((b.assignRoot left c).assignRoot right c).get? w =
      if (left = some w ∨ right = some w) ∧ b.occurs w c = false then some c else b.get? w := by
  rw [get?_assignRoot, hb.occurs_assignRoot, get?_assignRoot]
  by_cases hoccurs : b.occurs w c = false
  · by_cases hright : right = some w
    · simp [hright, hoccurs]
    · simp [hright, hoccurs]
  · simp [hoccurs]

/-! ## A variable without binding -/

theorem chain_of_resolve_eq_var (h : b.resolve t = .var x) : b.chain t = .unbound x := by
  rw [← type_chain] at h
  cases hchain : b.chain t with
  | unbound id =>
    rw [hchain] at h
    cases h
    rfl
  | column root ty => rw [hchain] at h; cases h
  | oneOf root alternatives => rw [hchain] at h; cases h
  | cast root input result inner => rw [hchain] at h; cases h

theorem combine_var_left (hl : b.resolve l = .var x) (hr : b.resolve r ≠ .var x) :
    (b.chain l).combine (b.chain r) b = b.bind x (b.resolve r) := by
  rw [← type_chain b r] at hr ⊢
  rw [chain_of_resolve_eq_var hl]
  cases hchain : b.chain r with
  | unbound y =>
    rw [hchain] at hr
    have hne : x ≠ y := by
      rintro rfl
      exact hr rfl
    rw [Chain.combine, if_neg hne]
    rfl
  | column root ty => rw [Chain.combine]; simp
  | oneOf root alternatives => rw [Chain.combine]; simp
  | cast root input result inner => rw [Chain.combine]; simp

theorem combine_var_right (hl : ∀ y, b.resolve l ≠ .var y) (hr : b.resolve r = .var x) :
    (b.chain l).combine (b.chain r) b = b.bind x (b.resolve l) := by
  rw [chain_of_resolve_eq_var hr, ← type_chain b l, Chain.combine]
  intro y hy
  apply hl y
  rw [← type_chain, hy]
  rfl

theorem Acyclic.bind_of_not_leads (hb : b.Acyclic) (h : ¬b.Leads t x) :
    b.bind x t = (.ok t, b.insert x t) := by
  rw [bind, hb.not_occurs_iff.mpr h, if_neg Bool.false_ne_true]

theorem Acyclic.isOk_bind_iff (hb : b.Acyclic) : (b.bind x t).1.isOk = true ↔ ¬b.Leads t x := by
  constructor
  · intro hok hleads
    rw [bind, if_pos (hb.occurs_iff.mpr hleads)] at hok
    cases hok
  · intro hleads
    rw [hb.bind_of_not_leads hleads]
    rfl

/-- A unification succeeds if the two types combine. -/
theorem isOk_unify (b : Bindings) (l r : InferredType) :
    (b.unify l r).1.isOk = ((b.chain l).combine (b.chain r) b).1.isOk := by
  unfold Bindings.unify Chain.unify
  obtain ⟨_ | _, _⟩ := (b.chain l).combine (b.chain r) b
  · rfl
  · rfl

/-- A variable is bound to what stands on the other side. -/
theorem Acyclic.unify_var_left (hb : b.Acyclic) (hl : b.resolve l = .var x)
    (hr : ¬b.Leads (b.resolve r) x) :
    b.unify l r = (.ok (b.resolve r),
      ((b.insert x (b.resolve r)).assignRoot (b.root l) (b.resolve r)).assignRoot (b.root r)
        (b.resolve r)) := by
  have hne : b.resolve r ≠ .var x := by
    intro hvar
    exact hr (hvar ▸ leads_var_self b x)
  unfold Bindings.unify Chain.unify
  rw [combine_var_left hl hne, hb.bind_of_not_leads hr]
  rfl

theorem Acyclic.unify_var_right (hb : b.Acyclic) (hl : ∀ y, b.resolve l ≠ .var y)
    (hr : b.resolve r = .var x) (h : ¬b.Leads (b.resolve l) x) :
    b.unify l r = (.ok (b.resolve l),
      ((b.insert x (b.resolve l)).assignRoot (b.root l) (b.resolve l)).assignRoot (b.root r)
        (b.resolve l)) := by
  unfold Bindings.unify Chain.unify
  rw [combine_var_right hl hr, hb.bind_of_not_leads h]
  rfl

/-! ## Casts -/

theorem casts_ne_var (inputs : List InferredType) (he : e.IsEnd) :
    ∀ y, InferredType.casts inputs e ≠ .var y := by
  cases inputs with
  | nil =>
    rcases he with ⟨ty, rfl⟩ | ⟨alternatives, rfl⟩
    · simp [InferredType.casts]
    · simp [InferredType.casts]
  | cons input inputs => simp [InferredType.casts]

theorem reading_casts (b : Bindings) (inputs : List InferredType) (he : e.IsEnd) :
    b.inputs (.casts inputs e) = inputs ∧ b.ending (.casts inputs e) = e := by
  obtain ⟨hinputs, hending, -⟩ := reading_of_isEnd b he
  rw [inputs_casts, hinputs, List.append_nil, ending_casts, hending]
  exact ⟨rfl, rfl⟩

theorem Acyclic.ending_of_resolve_eq_casts (hb : b.Acyclic) (h : b.resolve t = .casts inputs e)
    (he : e.IsEnd) : b.ending t = e := by
  rw [← hb.ending_resolve, h, (reading_casts b inputs he).2]

/-- Two types combine as what they come to does. -/
theorem Acyclic.combine_resolve (hb : b.Acyclic) (l r : InferredType) :
    (b.chain (b.resolve l)).combine (b.chain (b.resolve r)) b =
      (b.chain l).combine (b.chain r) b := by
  rw [← hb.detach_chain, ← hb.detach_chain, Chain.combine_detach_left, Chain.combine_detach_right]

/-- Types of which two alternatives go together meet, whichever of them comes first. -/
theorem exists_ordered_meet (inputs' : List InferredType)
    (h : (meets e.options f.options).Nonempty) :
    ∃ m, (if inputs' = [] then e.meet f else f.meet e) = some m ∧ m.IsEnd ∧
      m.options = meets e.options f.options := by
  split
  · obtain ⟨m, hm⟩ := InferredType.exists_meet_iff.mpr h
    exact ⟨m, hm, InferredType.isEnd_of_meet hm, InferredType.options_meet hm⟩
  · rw [ColumnType.meets_comm] at h ⊢
    obtain ⟨m, hm⟩ := InferredType.exists_meet_iff.mpr h
    exact ⟨m, hm, InferredType.isEnd_of_meet hm, InferredType.options_meet hm⟩

/-- The casts of both types are kept, and behind them stands what the types have in common. -/
theorem Acyclic.unify_casts_of_meet (hb : b.Acyclic) (hl : b.resolve l = .casts inputs e)
    (hr : b.resolve r = .casts inputs' f) (he : e.IsEnd) (hf : f.IsEnd) {m : InferredType}
    (hm : (if inputs' = [] then e.meet f else f.meet e) = some m)
    (hc : c = .casts (inputs ++ inputs') m) :
    b.unify l r = (.ok c, (b.assignRoot (b.root l) c).assignRoot (b.root r) c) := by
  unfold Bindings.unify Chain.unify
  rw [← hb.combine_resolve, hl, hr, Chain.combine_casts inputs inputs' he hf hm, hc]
  rfl

theorem Acyclic.unify_casts (hb : b.Acyclic) (hl : b.resolve l = .casts inputs e)
    (hr : b.resolve r = .casts inputs' f) (he : e.IsEnd) (hf : f.IsEnd)
    (h : (meets e.options f.options).Nonempty) :
    ∃ m c, m.IsEnd ∧ m.options = meets e.options f.options ∧ c = .casts (inputs ++ inputs') m ∧
      b.unify l r = (.ok c, (b.assignRoot (b.root l) c).assignRoot (b.root r) c) := by
  obtain ⟨m, hm, hend, hoptions⟩ := exists_ordered_meet inputs' h
  exact ⟨m, _, hend, hoptions, rfl, hb.unify_casts_of_meet hl hr he hf hm rfl⟩

theorem Acyclic.isOk_unify_casts_iff (hb : b.Acyclic) (hl : b.resolve l = .casts inputs e)
    (hr : b.resolve r = .casts inputs' f) (he : e.IsEnd) (hf : f.IsEnd) :
    (b.unify l r).1.isOk = true ↔ (meets e.options f.options).Nonempty := by
  constructor
  · intro hok
    rcases hunify : b.unify l r with ⟨_ | c, b'⟩
    · rw [hunify] at hok
      cases hok
    obtain ⟨b₁, hcombines, -⟩ := hb.unify_ok hunify
    have hl' := hb.ending_of_resolve_eq_casts hl he
    have hr' := hb.ending_of_resolve_eq_casts hr hf
    obtain ⟨m, -, hm | hm⟩ := hcombines.eq_casts hb (hl' ▸ casts_ne_var [] he)
      (hr' ▸ casts_ne_var [] hf)
    · rw [hl', hr'] at hm
      exact InferredType.exists_meet_iff.mp ⟨m, hm⟩
    · rw [hl', hr'] at hm
      rw [ColumnType.meets_comm]
      exact InferredType.exists_meet_iff.mp ⟨m, hm⟩
  · intro h
    obtain ⟨m, c, -, -, -, hunify⟩ := hb.unify_casts hl hr he hf h
    rw [hunify]
    rfl

/-- What a successful unification of two types with casts did. -/
theorem Acyclic.exists_meet_of_unify_casts (hb : b.Acyclic) (hl : b.resolve l = .casts inputs e)
    (hr : b.resolve r = .casts inputs' f) (he : e.IsEnd) (hf : f.IsEnd)
    (h : b.unify l r = (.ok c, b')) :
    ∃ m, (if inputs' = [] then e.meet f else f.meet e) = some m ∧
      c = .casts (inputs ++ inputs') m ∧
      b' = (b.assignRoot (b.root l) c).assignRoot (b.root r) c := by
  have hok : (b.unify l r).1.isOk = true := by
    rw [h]
    rfl
  obtain ⟨m, hm, -⟩ := exists_ordered_meet inputs' ((hb.isOk_unify_casts_iff hl hr he hf).mp hok)
  rw [hb.unify_casts_of_meet hl hr he hf hm rfl, Prod.mk.injEq, Except.ok.injEq] at h
  obtain ⟨rfl, rfl⟩ := h
  exact ⟨m, hm, rfl, rfl⟩

end Bindings

end QueryTyping
