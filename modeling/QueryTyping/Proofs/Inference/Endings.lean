import QueryTyping.Proofs.Inference.Unification

/-!
# What a unification does to endings and inputs

A unification gives the same ending to both types, the meet of the two that they had
(`MeetEnding`), and every other type keeps its ending or, if it had one of these two, gets the new
one (`Acyclic.endingsAfter_unify`). No type loses an input, and an input that is new comes with the
combined type (`Acyclic.inputsAfter_unify`).

Where both types have an ending that is no variable, the combined type consists of the casts on the
left, the casts on the right and the meet of the endings (`Combines.eq_casts`).
-/

namespace QueryTyping

namespace Bindings

variable {b b' b₁ : Bindings} {id x : VarId} {t l r c : InferredType}

/-- Binding a variable replaces what is read behind it, wherever it is met, and nothing else. -/
theorem Acyclic.reading_insert (hb : b.Acyclic) (h : ¬b.Leads c x) (t : InferredType) :
    ((b.insert x c).inputs t = b.inputs t ∧ (b.insert x c).ending t = b.ending t) ∨
      ∃ before, b.inputs t = before ++ b.inputs (.var x) ∧
        (b.insert x c).inputs t = before ++ b.inputs c ∧
        b.ending t = b.ending (.var x) ∧ (b.insert x c).ending t = b.ending c := by
  have hb' := hb.insert h
  -- behind the variable itself stands its new type, which is read as before
  have hnew : (b.insert x c).inputs (.var x) = b.inputs c ∧
      (b.insert x c).ending (.var x) = b.ending c := by
    have hx : (b.insert x c).get? x = some c := by simp [get?_insert]
    rw [hb'.inputs_bound hx, hb'.ending_bound hx, inputs, ending, chain_congr (agreeFrom_insert h)]
    exact ⟨rfl, rfl⟩
  induction t using hb.induction with
  | column ty => simp
  | oneOf alternatives => simp
  | cast input result _ ih =>
    rw [inputs_cast, inputs_cast, ending_cast, ending_cast]
    rcases ih with ⟨hinputs, hending⟩ | ⟨before, hold, hinputs, hending⟩
    · exact Or.inl ⟨by rw [hinputs], hending⟩
    · exact Or.inr ⟨input :: before, by rw [hold]; rfl, by rw [hinputs]; rfl, hending⟩
  | unbound id hid =>
    by_cases hx : id = x
    · subst hx
      exact Or.inr ⟨[], rfl, hnew.1, rfl, hnew.2⟩
    · have hid' : (b.insert x c).get? id = none := by rw [get?_insert, if_neg hx, hid]
      exact Or.inl ⟨by simp [hid, hid'], by simp [hid, hid']⟩
  | bound id ty hid ih =>
    by_cases hx : id = x
    · subst hx
      exact Or.inr ⟨[], rfl, hnew.1, rfl, hnew.2⟩
    · have hid' : (b.insert x c).get? id = some ty := by rw [get?_insert, if_neg hx, hid]
      rw [hb.inputs_bound hid, hb'.inputs_bound hid', hb.ending_bound hid, hb'.ending_bound hid']
      exact ih

/-! ## Endings -/

/-- What two endings come to when they describe the same value: a variable says nothing, and what
says something meets. -/
inductive MeetEnding : InferredType → InferredType → InferredType → Prop where
  | left {x : VarId} {e : InferredType} : MeetEnding (.var x) e e
  | right {e : InferredType} {y : VarId} : MeetEnding e (.var y) e
  | meet {e e' m : InferredType} (h : e.meet e' = some m) : MeetEnding e e' m
  | meetSwapped {e e' m : InferredType} (h : e'.meet e = some m) : MeetEnding e e' m

theorem MeetEnding.symm {e e' m : InferredType} (h : MeetEnding e e' m) : MeetEnding e' e m := by
  cases h with
  | left => exact .right
  | right => exact .left
  | meet h => exact .meetSwapped h
  | meetSwapped h => exact .meet h

/-- With a column type the order makes no difference. -/
theorem MeetEnding.column {e m : InferredType} {ty : ColumnType}
    (h : MeetEnding e (.column ty) m) :
    (∃ x, e = .var x ∧ m = .column ty) ∨
      e.meet (.column ty) = some m ∧ (InferredType.column ty).meet e = some m := by
  have hcomm : e.meet (.column ty) = (InferredType.column ty).meet e := by
    cases e with
    | column other => simp [InferredType.meet, ColumnType.meet_comm]
    | oneOf alternatives => rfl
    | cast input result => rfl
    | var id => rfl
  cases h with
  | left => exact Or.inl ⟨_, rfl, rfl⟩
  | meet h => exact Or.inr ⟨h, hcomm ▸ h⟩
  | meetSwapped h => exact Or.inr ⟨hcomm.trans h, h⟩

/-- Nothing stands behind a type that is neither a variable nor a cast. -/
theorem reading_of_isEnd (b : Bindings) (h : t.IsEnd) :
    b.inputs t = [] ∧ b.ending t = t ∧ b.roots t = [] := by
  rcases h with ⟨ty, rfl⟩ | ⟨alternatives, rfl⟩ <;> simp [roots, Chain.roots]

/-- Types that meet are their own endings, and so is their meet. -/
theorem endings_of_meet (b : Bindings) (h : l.meet r = some c) :
    b.ending l = l ∧ b.ending r = r ∧ b.ending c = c := by
  refine ⟨?_, ?_, (reading_of_isEnd b (InferredType.isEnd_of_meet h)).2.1⟩
  · cases l <;> simp [InferredType.meet] at h ⊢
  · cases r <;> simp [InferredType.meet] at h ⊢

/-- What unifying `l` and `r` to `c` does to endings. -/
structure EndingsAfter (b b' : Bindings) (l r c : InferredType) : Prop where
  acyclic : b'.Acyclic
  combined : MeetEnding (b.ending l) (b.ending r) (b'.ending c)
  others : ∀ t, b'.ending t = b.ending t ∨
    (b.ending t = b.ending l ∨ b.ending t = b.ending r) ∧ b'.ending t = b'.ending c

/-- Only the endings of the types matter. -/
theorem EndingsAfter.congr {l' r' c' : InferredType} (h : EndingsAfter b b' l r c)
    (hl : b.ending l' = b.ending l) (hr : b.ending r' = b.ending r)
    (hc : b'.ending c' = b'.ending c) : EndingsAfter b b' l' r' c' where
  acyclic := h.acyclic
  combined := by rw [hl, hr, hc]; exact h.combined
  others := by rw [hl, hr, hc]; exact h.others

theorem EndingsAfter.symm (h : EndingsAfter b b' l r c) : EndingsAfter b b' r l c where
  acyclic := h.acyclic
  combined := h.combined.symm
  others := fun t => (h.others t).imp_right fun ⟨ht, hc⟩ => ⟨ht.symm, hc⟩

/-- Writing the combined type to a variable that ended like one of the two sides is no change. -/
theorem EndingsAfter.insert (h : EndingsAfter b b₁ l r c) (hc : ¬b₁.Leads c x)
    (hx : b.ending (.var x) = b.ending l ∨ b.ending (.var x) = b.ending r) :
    EndingsAfter b (b₁.insert x c) l r c := by
  have hending : (b₁.insert x c).ending c = b₁.ending c := by
    rw [ending, chain_congr (agreeFrom_insert hc), ending]
  refine ⟨h.acyclic.insert hc, hending ▸ h.combined, fun t => ?_⟩
  rw [hending]
  rcases h.acyclic.reading_insert hc t with ⟨-, hkept⟩ | ⟨-, -, -, htx, hnew⟩
  · rw [hkept]
    exact h.others t
  · rw [hnew]
    rcases h.others t with ht | ⟨ht, -⟩
    · rcases h.others (.var x) with hold | ⟨-, hold⟩
      · rw [← ht, htx, hold]
        exact Or.inr ⟨hx, rfl⟩
      -- the ending of `x` was the new one already, and `t` has kept it
      · exact Or.inl (by rw [← ht, htx, hold])
    · exact Or.inr ⟨ht, rfl⟩

theorem EndingsAfter.assignRoot (hb : b.Acyclic) (h : EndingsAfter b b₁ l r c)
    (ht : b.ending t = b.ending l ∨ b.ending t = b.ending r) :
    EndingsAfter b (b₁.assignRoot (b.root t) c) l r c := by
  rcases h.acyclic.assignRoot_cases (b.root t) c with hkept | ⟨x, hroot, hleads, hwritten⟩
  · rwa [hkept]
  · have hx : b.ending (.var x) = b.ending t := by rw [ending, hb.chain_root hroot, ending]
    rw [hwritten]
    exact h.insert hleads (hx ▸ ht)

/-- Binding a variable without binding to the type on the other side. -/
theorem Acyclic.endingsAfter_bind (hb : b.Acyclic) (hl : b.resolve l = .var x)
    (h : ¬b.Leads (b.resolve r) x) :
    EndingsAfter b (b.insert x (b.resolve r)) l r (b.resolve r) := by
  have hx : b.ending (.var x) = .var x := ending_var_none (hb.get?_of_resolve_eq_var hl)
  have hlx : b.ending l = .var x := by rw [← hb.ending_resolve, hl, hx]
  have hstart : EndingsAfter b b (.var x) (b.resolve r) (b.resolve r) :=
    ⟨hb, by rw [hx]; exact .left, fun t => Or.inl rfl⟩
  exact (hstart.insert h (Or.inl rfl)).congr (hlx.trans hx.symm) (hb.ending_resolve r).symm rfl

theorem Combines.endingsAfter (hb : b.Acyclic) (h : Combines b l r c b') :
    EndingsAfter b b' l r c := by
  induction h with
  | @same l r x hl hr =>
    have hx : b.ending (.var x) = .var x := ending_var_none (hb.get?_of_resolve_eq_var hl)
    refine ⟨hb, ?_, fun t => Or.inl rfl⟩
    rw [← hb.ending_resolve l, ← hb.ending_resolve r, hl, hr, hx]
    exact .left
  | bindLeft hl h => exact hb.endingsAfter_bind hl h
  | bindRight hr h => exact (hb.endingsAfter_bind hr h).symm
  | @ends l r c h =>
    obtain ⟨hl, hr, hc⟩ := endings_of_meet b h
    refine ⟨hb, ?_, fun t => Or.inl rfl⟩
    rw [← hb.ending_resolve l, ← hb.ending_resolve r, hl, hr, hc]
    exact .meet h
  | openLeft hl hr h ih =>
    refine (ih.assignRoot hb (Or.inl rfl)).congr ?_ (hb.ending_resolve _).symm (ending_cast ..)
    rw [← hb.ending_resolve, hl, ending_cast]
  | openRight hl hr h ih =>
    refine (ih.assignRoot hb (Or.inl rfl)).symm.congr (hb.ending_resolve _).symm ?_ (ending_cast ..)
    rw [← hb.ending_resolve, hr, ending_cast]

theorem Acyclic.endingsAfter_unify (hb : b.Acyclic) (h : b.unify l r = (.ok c, b')) :
    EndingsAfter b b' l r c := by
  obtain ⟨b₁, hcombines, rfl⟩ := hb.unify_ok h
  exact ((hcombines.endingsAfter hb).assignRoot hb (Or.inl rfl)).assignRoot hb (Or.inr rfl)

/-! ## Inputs -/

/-- The type behind a cast has the inputs behind the first one. -/
theorem Acyclic.inputs_of_resolve_eq_cast (hb : b.Acyclic) {input result : InferredType}
    (h : b.resolve t = .cast input result) : b.inputs t = input :: b.inputs result := by
  rw [← hb.inputs_resolve, h, inputs_cast]

/-- Types that meet have no casts. -/
theorem inputs_eq_nil_of_meet
    (h : (b.resolve l).meet (b.resolve r) = some c) : b.inputs l = [] ∧ b.inputs r = [] := by
  constructor
  · refine inputs_eq_nil_of_isCast ?_
    cases hresolve : b.resolve l <;> simp_all [InferredType.meet, InferredType.isCast]
  · refine inputs_eq_nil_of_isCast ?_
    cases hresolve : b.resolve r <;> simp_all [InferredType.meet, InferredType.isCast]

/-- What unifying `l` and `r` to `c` does to inputs: none is lost, and what is new comes with the
combined type. -/
structure InputsAfter (b b' : Bindings) (l r c : InferredType) : Prop where
  acyclic : b'.Acyclic
  left : b.inputs l ⊆ b'.inputs c
  right : b.inputs r ⊆ b'.inputs c
  kept : ∀ t, b.inputs t ⊆ b'.inputs t
  added : ∀ t, ∀ input ∈ b'.inputs t, input ∈ b.inputs t ∨ input ∈ b'.inputs c

theorem InputsAfter.symm (h : InputsAfter b b' l r c) : InputsAfter b b' r l c :=
  ⟨h.acyclic, h.right, h.left, h.kept, h.added⟩

/-- The cast that was opened is put back. -/
theorem InputsAfter.cast {l' r' input : InferredType} (h : InputsAfter b b' l r c)
    (hl : b.inputs l' ⊆ input :: b.inputs l) (hr : b.inputs r' ⊆ input :: b.inputs r) :
    InputsAfter b b' l' r' (.cast input c) where
  acyclic := h.acyclic
  left := by
    rw [inputs_cast]
    exact List.Subset.trans hl (List.cons_subset_cons input h.left)
  right := by
    rw [inputs_cast]
    exact List.Subset.trans hr (List.cons_subset_cons input h.right)
  kept := h.kept
  added := fun t i hi => by
    rw [inputs_cast]
    exact (h.added t i hi).imp_right (List.mem_cons_of_mem input)

/-- Writing the combined type to a variable whose inputs it has loses no input. -/
theorem InputsAfter.insert (h : InputsAfter b b₁ l r c) (hc : ¬b₁.Leads c x)
    (hx : b.inputs (.var x) ⊆ b₁.inputs c) : InputsAfter b (b₁.insert x c) l r c := by
  have hinputs : (b₁.insert x c).inputs c = b₁.inputs c := by
    rw [inputs, chain_congr (agreeFrom_insert hc), inputs]
  refine ⟨h.acyclic.insert hc, hinputs ▸ h.left, hinputs ▸ h.right, fun t i hi => ?_,
    fun t i hi => ?_⟩
  · rcases h.acyclic.reading_insert hc t with ⟨hkept, -⟩ | ⟨before, hold, hnew, -⟩
    · exact hkept ▸ h.kept t hi
    · -- what was read behind `x` is among the inputs of the combined type
      have hmem := h.kept t hi
      rw [hold, List.mem_append] at hmem
      rw [hnew, List.mem_append]
      refine hmem.imp_right fun hi => ?_
      rcases h.added _ i hi with hi | hi
      · exact hx hi
      · exact hi
  · rw [hinputs]
    rcases h.acyclic.reading_insert hc t with ⟨hkept, -⟩ | ⟨before, hold, hnew, -⟩
    · exact h.added t i (hkept ▸ hi)
    · rw [hnew, List.mem_append] at hi
      rcases hi with hi | hi
      · exact h.added t i (by rw [hold]; exact List.mem_append_left _ hi)
      · exact Or.inr hi

theorem InputsAfter.assignRoot (hb : b.Acyclic) (h : InputsAfter b b₁ l r c)
    (ht : b.inputs t ⊆ b₁.inputs c) : InputsAfter b (b₁.assignRoot (b.root t) c) l r c := by
  rcases h.acyclic.assignRoot_cases (b.root t) c with hkept | ⟨x, hroot, hleads, hwritten⟩
  · rwa [hkept]
  · have hx : b.inputs (.var x) = b.inputs t := by rw [inputs, hb.chain_root hroot, inputs]
    rw [hwritten]
    exact h.insert hleads (hx ▸ ht)

theorem Acyclic.inputsAfter_bind (hb : b.Acyclic) (hl : b.resolve l = .var x)
    (h : ¬b.Leads (b.resolve r) x) :
    InputsAfter b (b.insert x (b.resolve r)) l r (b.resolve r) := by
  have hnil : b.inputs l = [] := inputs_eq_nil_of_isCast (by rw [hl]; rfl)
  have hx : b.inputs (.var x) = [] := inputs_var_none (hb.get?_of_resolve_eq_var hl)
  have hr : b.inputs r ⊆ b.inputs (b.resolve r) := by rw [hb.inputs_resolve]; simp
  have hstart : InputsAfter b b l r (b.resolve r) :=
    ⟨hb, by simp [hnil], hr, fun t => List.Subset.refl _, fun t i => Or.inl⟩
  exact hstart.insert h (by simp [hx])

theorem Combines.inputsAfter (hb : b.Acyclic) (h : Combines b l r c b') :
    InputsAfter b b' l r c := by
  induction h with
  | @same l r x hl hr =>
    have hnil : b.inputs l = [] ∧ b.inputs r = [] :=
      ⟨inputs_eq_nil_of_isCast (by rw [hl]; rfl), inputs_eq_nil_of_isCast (by rw [hr]; rfl)⟩
    exact ⟨hb, by simp [hnil.1], by simp [hnil.2], fun t => List.Subset.refl _,
      fun t i => Or.inl⟩
  | bindLeft hl h => exact hb.inputsAfter_bind hl h
  | bindRight hr h => exact (hb.inputsAfter_bind hr h).symm
  | @ends l r c h =>
    obtain ⟨hl, hr⟩ := inputs_eq_nil_of_meet h
    exact ⟨hb, by simp [hl], by simp [hr], fun t => List.Subset.refl _,
      fun t i => Or.inl⟩
  | openLeft hl hr h ih =>
    refine (ih.assignRoot hb ih.left).cast ?_ ?_
    · rw [hb.inputs_of_resolve_eq_cast hl]
      exact List.Subset.refl _
    · rw [hb.inputs_resolve]
      exact List.subset_cons_self _ _
  | openRight hl hr h ih =>
    refine (ih.assignRoot hb ih.left).symm.cast ?_ ?_
    · rw [hb.inputs_resolve]
      exact List.subset_cons_self _ _
    · rw [hb.inputs_of_resolve_eq_cast hr]
      exact List.Subset.refl _

theorem Acyclic.inputsAfter_unify (hb : b.Acyclic) (h : b.unify l r = (.ok c, b')) :
    InputsAfter b b' l r c := by
  obtain ⟨b₁, hcombines, rfl⟩ := hb.unify_ok h
  have hleft := (hcombines.inputsAfter hb).assignRoot hb (hcombines.inputsAfter hb).left
  exact hleft.assignRoot hb hleft.right

/-- Nothing is lost of the casts on either side. -/
theorem Combines.eq_casts (hb : b.Acyclic) (h : Combines b l r c b')
    (hl : ∀ x, b.ending l ≠ .var x) (hr : ∀ x, b.ending r ≠ .var x) :
    ∃ m, c = .casts (b.inputs l ++ b.inputs r) m ∧
      ((b.ending l).meet (b.ending r) = some m ∨ (b.ending r).meet (b.ending l) = some m) := by
  induction h with
  | @same l r x hvar _ =>
    refine (hl x ?_).elim
    rw [← hb.ending_resolve, hvar, ending_var_none (hb.get?_of_resolve_eq_var hvar)]
  | @bindLeft l r x hvar _ =>
    refine (hl x ?_).elim
    rw [← hb.ending_resolve, hvar, ending_var_none (hb.get?_of_resolve_eq_var hvar)]
  | @bindRight l r x hvar _ =>
    refine (hr x ?_).elim
    rw [← hb.ending_resolve, hvar, ending_var_none (hb.get?_of_resolve_eq_var hvar)]
  | @ends l r c hmeet =>
    obtain ⟨hl', hr', -⟩ := endings_of_meet b hmeet
    have hnil := inputs_eq_nil_of_meet hmeet
    refine ⟨c, by rw [hnil.1, hnil.2]; rfl, Or.inl ?_⟩
    rw [← hb.ending_resolve l, ← hb.ending_resolve r, hl', hr', hmeet]
  | @openLeft l r input result c b₁ hcast _ _ ih =>
    have hending : b.ending l = b.ending result := by rw [← hb.ending_resolve, hcast, ending_cast]
    rw [hb.ending_resolve, hb.inputs_resolve] at ih
    obtain ⟨m, rfl, hm⟩ := ih (fun x => hending ▸ hl x) hr
    refine ⟨m, ?_, hending ▸ hm⟩
    rw [hb.inputs_of_resolve_eq_cast hcast]
    rfl
  | @openRight l r input result c b₁ hplain hcast _ ih =>
    have hending : b.ending r = b.ending result := by rw [← hb.ending_resolve, hcast, ending_cast]
    rw [hb.ending_resolve, hb.inputs_resolve] at ih
    obtain ⟨m, rfl, hm⟩ := ih (fun x => hending ▸ hr x) hl
    refine ⟨m, ?_, hending ▸ hm.symm⟩
    rw [hb.inputs_of_resolve_eq_cast hcast, inputs_eq_nil_of_isCast hplain.2]
    simp [InferredType.casts]

end Bindings

end QueryTyping
