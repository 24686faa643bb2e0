import QueryTyping.Proofs.Inference.Links
import QueryTyping.Proofs.Inference.Outcomes

/-!
# What a unification writes

A unification writes to the variables through which the two types are read, and to no others. These
are met from the types along bindings and the results of casts (`Bindings.Carries`), so a variable
that only stands in the input of a cast keeps its binding, and what leads to none of them is read as
before (`Session.unify_writes_along_results`).

It writes the combined type to the last variable on each side, unless the combined type leads to
that variable. So this is the one case in which a variable that was unified does not come to the
combined type (`Session.resolve_unified_iff`). In the first place the roots are looked up, then the
types are combined, which may bind the roots of opened casts anew, and then both roots are written.
That none of this undoes another rests on two facts: a variable that is bound to a variable is never
written (`KeepsLinks`), and what the combined type leads to is settled before the roots are written
(`Acyclic.occurs_assignRoot`).
-/

namespace QueryTyping

open Relation

namespace Bindings

variable {b b' : Bindings} {v x y : VarId} {l r t c : InferredType}

/-! ## Variables on the way -/

/-- The variable is met from the type along bindings and the results of casts, never through the
input of a cast. -/
inductive Carries (b : Bindings) : InferredType → VarId → Prop where
  | here (x : VarId) : Carries b (.var x) x
  | bound {x y : VarId} {ty : InferredType} (h : b.get? x = some ty) (hy : Carries b ty y) :
      Carries b (.var x) y
  | result {input result : InferredType} {y : VarId} (hy : Carries b result y) :
      Carries b (.cast input result) y

@[simp] theorem not_carries_column (ty : ColumnType) : ¬b.Carries (.column ty) x := nofun

@[simp] theorem carries_cast {input result : InferredType} :
    b.Carries (.cast input result) x ↔ b.Carries result x := by
  constructor
  · intro h
    cases h with
    | result h => exact h
  · exact .result

theorem carries_bound {ty : InferredType} (h : b.get? x = some ty) :
    b.Carries (.var x) y ↔ x = y ∨ b.Carries ty y := by
  constructor
  · intro hy
    cases hy with
    | here => exact Or.inl rfl
    | bound h' hy =>
      obtain rfl := Option.some.inj (h.symm.trans h')
      exact Or.inr hy
  · rintro (rfl | hy)
    · exact .here x
    · exact .bound h hy

theorem carries_unbound (h : b.get? x = none) : b.Carries (.var x) y ↔ x = y := by
  constructor
  · intro hy
    cases hy with
    | here => rfl
    | bound h' _ => cases h.symm.trans h'
  · rintro rfl
    exact .here x

theorem Acyclic.carries_of_mem_roots (hb : b.Acyclic) (h : x ∈ b.roots t) : b.Carries t x := by
  induction t using hb.induction with
  | column ty => simp [roots, Chain.roots] at h
  | oneOf alternatives => simp [roots, Chain.roots] at h
  | cast input result _ ih =>
    rw [roots_cast] at h
    exact carries_cast.mpr (ih h)
  | unbound id hid =>
    rw [roots, chain_var_none hid, Chain.roots, List.mem_singleton] at h
    exact (carries_unbound hid).mpr h.symm
  | bound id ty hid ih =>
    rw [carries_bound hid]
    rw [roots, hb.chain_bound hid] at h
    cases hroot : b.root ty with
    | none =>
      rw [Chain.roots_rootAt_of_root_eq_none hroot, List.mem_cons] at h
      exact h.imp Eq.symm ih
    | some y =>
      rw [Chain.rootAt_of_root_eq_some hroot] at h
      exact Or.inr (ih h)

/-- Whether it succeeds or fails, a unification writes only to variables on the way of the two
types. -/
theorem Acyclic.get?_unify_of_not_carries (hb : b.Acyclic) (hl : ¬b.Carries l x)
    (hr : ¬b.Carries r x) : (b.unify l r).2.get? x = b.get? x := by
  rcases hunify : b.unify l r with ⟨outcome, b'⟩
  cases outcome with
  | error error => rw [unify_error hunify]
  | ok c =>
    refine hb.get?_unify hunify (fun hx => hl ?_) (fun hx => hr ?_)
    · exact hb.carries_of_mem_roots hx
    · exact hb.carries_of_mem_roots hx

/-! ## The last variable -/

/-- From one variable to the next, as they are bound to one another, `v` comes to `x` last. -/
def LastVariable (b : Bindings) (v x : VarId) : Prop :=
  ReflTransGen (fun v w => b.get? v = some (.var w)) v x ∧ ∀ w, b.get? x ≠ some (.var w)

theorem Acyclic.exists_lastVariable (hb : b.Acyclic) (v : VarId) : ∃ x, b.LastVariable v x := by
  generalize ht : InferredType.var v = t
  induction t using hb.induction generalizing v with
  | column ty => cases ht
  | oneOf alternatives => cases ht
  | cast input result _ _ => cases ht
  | unbound id hid =>
    cases ht
    exact ⟨id, .refl, fun w => by simp [hid]⟩
  | bound id ty hid ih =>
    cases ht
    by_cases hlink : ∃ w, .var w = ty
    · obtain ⟨w, hw⟩ := hlink
      obtain ⟨x, hpath, hlast⟩ := ih w hw
      exact ⟨x, .head (hw ▸ hid) hpath, hlast⟩
    · exact ⟨id, .refl, fun w hw => hlink ⟨w, Option.some.inj (hw.symm.trans hid)⟩⟩

/-- The last variable is the root. -/
theorem LastVariable.root_eq (h : b.LastVariable v x) (hb : b.Acyclic) :
    b.root (.var v) = some x := by
  obtain ⟨hpath, hlast⟩ := h
  induction hpath using ReflTransGen.head_induction_on with
  | refl => exact hb.root_eq_self hlast
  | head hstep _ ih => rw [root, hb.chain_var_link hstep, ← root, ih]

/-! ## What the combined type leads to -/

theorem Acyclic.leads_of_resolve (hb : b.Acyclic) (h : b.Leads (b.resolve t) x) : b.Leads t x := by
  induction t using hb.induction with
  | column ty => rwa [resolve_column] at h
  | oneOf alternatives => rwa [resolve_oneOf] at h
  | cast input result _ _ => rwa [resolve_cast] at h
  | unbound id hid => rwa [resolve_var_none hid] at h
  | bound id ty hid ih =>
    rw [hb.resolve_bound hid] at h
    exact (leads_bound hid).mpr (Or.inr (ih h))

/-- After a variable was bound, a type leads to what it led to before and to what the new type
of the variable led to. -/
theorem leads_insert (hc : ¬b.Leads c x) (h : (b.insert x c).Leads t y) :
    b.Leads t y ∨ b.Leads c y := by
  obtain ⟨w, hw, hpath⟩ := h
  rcases reflTransGen_iff_eq_or_transGen.mp hpath with rfl | hpath
  · exact Or.inl ⟨y, hw, .refl⟩
  · rcases transGen_insert_cases hpath with hold | ⟨-, hnew⟩
    · exact Or.inl ⟨w, hw, hold.to_reflTransGen⟩
    · exact Or.inr (leads_of_transGen_insert hc hnew)

theorem Acyclic.leads_assignRoot (hb : b.Acyclic) {root : Option VarId}
    (h : (b.assignRoot root c).Leads t y) : b.Leads t y ∨ b.Leads c y := by
  rcases hb.assignRoot_cases root c with hkept | ⟨x, -, hleads, hwritten⟩
  · exact Or.inl (hkept ▸ h)
  · rw [hwritten] at h
    exact leads_insert hleads h

theorem Acyclic.leads_opened {b₁ : Bindings} {root : Option VarId} {input : InferredType}
    (hb₁ : b₁.Acyclic) (h : ∀ {t}, b₁.Leads t y → b.Leads t y ∨ b.Leads c y)
    (hy : (b₁.assignRoot root c).Leads t y) : b.Leads t y ∨ b.Leads (.cast input c) y := by
  rw [leads_cast]
  rcases hb₁.leads_assignRoot hy with hy | hy
  · exact (h hy).imp_right Or.inr
  · exact Or.inr (Or.inr ((h hy).elim id id))

/-- Types come to lead to nothing new but what the combined type led to before. -/
theorem Combines.leads (hb : b.Acyclic) (h : Combines b l r c b') (hy : b'.Leads t y) :
    b.Leads t y ∨ b.Leads c y := by
  induction h generalizing t with
  | same _ _ => exact Or.inl hy
  | ends _ => exact Or.inl hy
  | bindLeft _ h => exact leads_insert h hy
  | bindRight _ h => exact leads_insert h hy
  | openLeft _ _ h ih => exact (h.acyclic hb).leads_opened ih hy
  | openRight _ _ h ih => exact (h.acyclic hb).leads_opened ih hy

/-! ## What the unified variables come to -/

/-- A combined type that is a variable is one without binding. -/
theorem Combines.get?_combined (hb : b.Acyclic) (h : Combines b l r (.var x) b') :
    b'.get? x = none := by
  generalize hc : InferredType.var x = c at h
  cases h with
  | same hl _ =>
    cases hc
    exact hb.get?_of_resolve_eq_var hl
  | bindLeft _ h =>
    rw [get?_insert, if_neg, hb.get?_of_resolve_eq_var hc.symm]
    rintro rfl
    exact h (hc ▸ leads_var_self b x)
  | bindRight _ h =>
    rw [get?_insert, if_neg, hb.get?_of_resolve_eq_var hc.symm]
    rintro rfl
    exact h (hc ▸ leads_var_self b x)
  | ends h =>
    rw [← hc] at h
    exact (InferredType.meet_alternatives_ne_nil h rfl).elim
  | openLeft _ _ _ => cases hc
  | openRight _ _ _ => cases hc

/-- The type comes to the variable, if at all, as the variable itself. -/
def ClearOf (b : Bindings) (c : InferredType) (x : VarId) : Prop := c = .var x ∨ ¬b.Leads c x

/-- A variable comes to a type that has been bound to its root, and to no other type that leads to
the root. -/
theorem Acyclic.resolve_root_iff (hb : b.Acyclic) (hunbound : ∀ z, c = .var z → b.get? z = none)
    (hwritten : ¬b.Leads c x → b.get? x = some c) :
    b.resolve (.var x) = c ↔ b.ClearOf c x := by
  have hself : b.resolve c = c := by
    cases c with
    | column ty => rw [resolve_column]
    | oneOf alternatives => rw [resolve_oneOf]
    | cast input result => rw [resolve_cast]
    | var z => rw [resolve_var_none (hunbound z rfl)]
  constructor
  · intro hresolve
    by_contra hnot
    obtain ⟨hne, hleads⟩ := not_or.mp hnot
    cases hx : b.get? x with
    | none => exact hne (hresolve.symm.trans (resolve_var_none hx))
    | some bound =>
      -- the type that is bound to the root would lead back to it
      refine hb.not_leads_bound hx (hb.leads_of_resolve ?_)
      rw [← hb.resolve_bound hx, hresolve]
      exact not_not.mp hleads
  · rintro (rfl | hleads)
    · exact hself
    · rw [hb.resolve_bound (hwritten hleads), hself]

/-- The combined type is bound to the root of each side, unless it leads to the root. -/
theorem Acyclic.get?_unify_root (hb : b.Acyclic) (h : b.unify l r = (.ok c, b'))
    (hx : b.root l = some x ∨ b.root r = some x) (hleads : ¬b'.Leads c x) :
    b'.get? x = some c := by
  have hb' := hb.of_unify h
  obtain ⟨b₁, hcombines, rfl⟩ := hb.unify_ok h
  have hb₁ := hcombines.acyclic hb
  have hoccurs := hb'.not_occurs_iff.mpr hleads
  rw [(hb₁.assignRoot _).occurs_assignRoot, hb₁.occurs_assignRoot] at hoccurs
  rw [hb₁.get?_assignRoots, if_pos ⟨hx, hoccurs⟩]

theorem Acyclic.get?_unify_combined (hb : b.Acyclic) (h : b.unify l r = (.ok (.var x), b')) :
    b'.get? x = none := by
  obtain ⟨b₁, hcombines, rfl⟩ := hb.unify_ok h
  have hb₁ := hcombines.acyclic hb
  have hoccurs : b₁.occurs x (.var x) = true := hb₁.occurs_iff.mpr (leads_var_self b₁ x)
  rw [hb₁.get?_assignRoots, if_neg, hcombines.get?_combined hb]
  simp [hoccurs]

/-- The combined type comes to lead to nothing that it did not lead to before. -/
theorem Acyclic.leads_of_unify (hb : b.Acyclic) (h : b.unify l r = (.ok c, b'))
    (hy : b'.Leads c y) : b.Leads c y := by
  obtain ⟨b₁, hcombines, rfl⟩ := hb.unify_ok h
  have hb₁ := hcombines.acyclic hb
  have hy₁ : b₁.Leads c y := by
    have hy := ((hb₁.assignRoot _).leads_assignRoot hy).elim id id
    exact (hb₁.leads_assignRoot hy).elim id id
  exact (hcombines.leads hb hy₁).elim id id

/-- A side that has a root comes to the combined type, unless that leads to the root. -/
theorem Acyclic.resolve_side_iff (hb : b.Acyclic) (h : b.unify l r = (.ok c, b'))
    (ht : t = l ∨ t = r) (hx : b.root t = some x) : b'.resolve t = c ↔ b'.ClearOf c x := by
  have hb' := hb.of_unify h
  -- the variables before the root are bound to one another as before
  have hchain := (hb.keepsLinks_unify h).chain_eq hb hb' hx
  rw [← type_chain, hchain, type_chain]
  refine hb'.resolve_root_iff ?_ (hb.get?_unify_root h ?_)
  · rintro z rfl
    exact hb.get?_unify_combined h
  · rcases ht with rfl | rfl
    · exact Or.inl hx
    · exact Or.inr hx

/-- A variable that was unified comes to the combined type, unless that leads to its root. -/
theorem Acyclic.resolve_unify_iff (hb : b.Acyclic) (h : b.unify l r = (.ok c, b'))
    (hv : l = .var v ∨ r = .var v) (hx : b.LastVariable v x) :
    b'.resolve (.var v) = c ↔ b'.ClearOf c x :=
  hb.resolve_side_iff h (hv.imp Eq.symm Eq.symm) (hx.root_eq hb)

end Bindings

namespace Session

variable {s : Session} {l r c : InferredType} {after : Inference}

/-- After a successful unification the combined type is no variable, or one without binding. A
variable that was one of the two types comes to the combined type, and to the same column type,
unless the combined type leads to the last of the variables to which it was bound, and there always
is a last one; then it does not come to it. So two such variables come to the same type. It is
enough that the combined type did not lead to that variable before: it leads to nothing new. -/
theorem resolve_unified_iff (hs : s.Reachable) (h : s.inference.unify l r = (.ok c, after)) :
    (∀ x, c = .var x → after.bindings.get? x = none) ∧
    (∀ v, ∃ x, s.bindings.LastVariable v x) ∧
    (∀ v x, l = .var v ∨ r = .var v → s.bindings.LastVariable v x →
      (after.bindings.resolve (.var v) = c ↔ after.bindings.ClearOf c x) ∧
      (after.bindings.ClearOf c x → after.concrete (.var v) = after.concrete c)) ∧
    (∀ v w x y, l = .var v → r = .var w → s.bindings.LastVariable v x →
      s.bindings.LastVariable w y → after.bindings.ClearOf c x → after.bindings.ClearOf c y →
      after.bindings.resolve (.var v) = after.bindings.resolve (.var w)) ∧
    ∀ x, s.bindings.ClearOf c x → after.bindings.ClearOf c x := by
  have hb := hs.acyclic
  have hunify := Inference.bindings_unify h
  have hb' := hb.of_unify hunify
  refine ⟨?_, hb.exists_lastVariable, fun v x hv hx => ?_,
    fun v w x y hl hr hx hy hclear hclear' => ?_, fun x hclear => ?_⟩
  · rintro x rfl
    exact hb.get?_unify_combined hunify
  · have hiff := hb.resolve_unify_iff hunify hv hx
    refine ⟨hiff, fun hclear => ?_⟩
    show after.bindings.concrete (.var v) = after.bindings.concrete c
    rw [← hb'.concrete_resolve, hiff.mpr hclear]
  · rw [(hb.resolve_unify_iff hunify (Or.inl hl) hx).mpr hclear,
      (hb.resolve_unify_iff hunify (Or.inr hr) hy).mpr hclear']
  · exact hclear.imp_right fun hnot hleads => hnot (hb.leads_of_unify hunify hleads)

/-- A variable that is bound to another one, which is a cast with an unknown result, and a variable
that is a cast to an integer. Unifying them binds the result, too. -/
theorem resolve_unified_iff_of_linked :
    let cast := InferredType.cast (.var 5) (.column (.notNull .integer))
    let s := run {} [
      .unify (.var 0) (.var 1),
      .unify (.var 1) (.cast (.var 2) (.var 3)),
      .unify (.var 4) cast]
    let after := (s.inference.unify (.var 0) (.var 4)).2
    let c := InferredType.cast (.var 2) cast
    s.Reachable ∧ (s.inference.unify (.var 0) (.var 4)).1 = .ok c ∧
      s.bindings.LastVariable 0 1 ∧ s.bindings.LastVariable 4 4 ∧
      after.bindings.ClearOf c 1 ∧ after.bindings.ClearOf c 4 ∧
      after.bindings.resolve (.var 0) = c ∧ after.bindings.resolve (.var 4) = c ∧
      after.concrete (.var 0) = after.concrete c := by
  intro cast s after c
  have hs : s.Reachable := ⟨_, _, rfl⟩
  have hok : (s.inference.unify (.var 0) (.var 4)).1 = .ok c := by decide +kernel
  have hafter : after.bindings.Acyclic := (hs.call (.unify (.var 0) (.var 4))).acyclic
  have hlink : s.bindings.get? 0 = some (.var 1) := by decide +kernel
  have hone : s.bindings.get? 1 = some (.cast (.var 2) (.var 3)) := by decide +kernel
  have hfour : s.bindings.get? 4 = some cast := by decide +kernel
  have hlast : s.bindings.LastVariable 0 1 := ⟨.single hlink, fun w => by simp [hone]⟩
  have hlast' : s.bindings.LastVariable 4 4 := ⟨.refl, fun w => by simp [hfour, cast]⟩
  have hclear : after.bindings.ClearOf c 1 := Or.inr (hafter.not_occurs_iff.mp (by decide +kernel))
  have hclear' : after.bindings.ClearOf c 4 := Or.inr (hafter.not_occurs_iff.mp (by decide +kernel))
  obtain ⟨-, -, hvariable, hboth, -⟩ := resolve_unified_iff hs (Prod.ext hok rfl)
  obtain ⟨hresolve, hconcrete⟩ := hvariable 0 1 (Or.inl rfl) hlast
  have hsame := hboth 0 4 1 4 rfl rfl hlast hlast' hclear hclear'
  have hresolve := hresolve.mpr hclear
  exact ⟨hs, hok, hlast, hlast', hclear, hclear', hresolve, hsame ▸ hresolve, hconcrete hclear⟩

/-- Whether it succeeds or fails, a unification changes only bindings of variables that are met from
one of the two types along bindings and the results of casts. So a variable that is reached through
the inputs of casts only keeps its binding, and a type that leads to none of the variables that are
met comes down to the same column type as before. -/
theorem unify_writes_along_results (hs : s.Reachable) (l r : InferredType) :
    (∀ x, (s.inference.unify l r).2.bindings.get? x ≠ s.bindings.get? x →
      s.bindings.Carries l x ∨ s.bindings.Carries r x) ∧
    (∀ x, ¬s.bindings.Carries l x → ¬s.bindings.Carries r x →
      (s.inference.unify l r).2.bindings.get? x = s.bindings.get? x) ∧
    ∀ t, (∀ x, s.bindings.Leads t x → ¬s.bindings.Carries l x ∧ ¬s.bindings.Carries r x) →
      (s.inference.unify l r).2.concrete t = s.inference.concrete t := by
  have hkept : ∀ x, ¬s.bindings.Carries l x → ¬s.bindings.Carries r x →
      (s.inference.unify l r).2.bindings.get? x = s.bindings.get? x := fun x hl hr =>
    hs.acyclic.get?_unify_of_not_carries hl hr
  refine ⟨fun x hx => ?_, hkept, fun t ht => ?_⟩
  · by_contra hnot
    obtain ⟨hl, hr⟩ := not_or.mp hnot
    exact hx (hkept x hl hr)
  · exact Bindings.concrete_congr fun x hx => hkept x (ht x hx).1 (ht x hx).2

/-- A variable that is a cast of a text, with a result that is not known yet. Where the cast is
unified with an integer its result is bound, and the text under it is left alone. -/
theorem unify_writes_along_results_of_cast :
    let s := run {} [
      .unify (.var 0) (.cast (.var 1) (.var 2)),
      .unify (.var 1) (.column (.orNull .string))]
    let integer := InferredType.column (.notNull .integer)
    let after := (s.inference.unify (.var 0) integer).2
    s.Reachable ∧
      after.bindings.get? 2 = some integer ∧ s.bindings.get? 2 = none ∧
      s.bindings.Carries (.var 0) 2 ∧
      s.bindings.Leads (.var 0) 1 ∧ ¬s.bindings.Carries (.var 0) 1 ∧ ¬s.bindings.Carries integer 1 ∧
      after.bindings.get? 1 = s.bindings.get? 1 ∧
      after.concrete (.var 1) = s.inference.concrete (.var 1) := by
  intro s integer after
  have hs : s.Reachable := ⟨_, _, rfl⟩
  have hzero : s.bindings.get? 0 = some (.cast (.var 1) (.var 2)) := by decide +kernel
  have hone : s.bindings.get? 1 = some (.column (.orNull .string)) := by decide +kernel
  have htwo : s.bindings.get? 2 = none := by decide +kernel
  have htwo' : after.bindings.get? 2 = some integer := by decide +kernel
  have hleads : s.bindings.Leads (.var 0) 1 := by
    rw [Bindings.leads_bound hzero, Bindings.leads_cast]
    exact Or.inr (Or.inl (Bindings.leads_var_self _ _))
  have hnot : ¬s.bindings.Carries (.var 0) 1 := by
    rw [Bindings.carries_bound hzero, Bindings.carries_cast, Bindings.carries_unbound htwo]
    decide
  have hnot' : ¬s.bindings.Carries integer 1 := Bindings.not_carries_column _
  obtain ⟨hwritten, hkept, hconcrete⟩ := unify_writes_along_results hs (.var 0) integer
  have hcarries : s.bindings.Carries (.var 0) 2 := by
    refine (hwritten 2 ?_).resolve_right (Bindings.not_carries_column _)
    rw [htwo']
    simp [htwo]
  refine ⟨hs, htwo', htwo, hcarries, hleads, hnot, hnot', hkept 1 hnot hnot', hconcrete _ ?_⟩
  intro x hx
  obtain rfl : 1 = x := by simpa [Bindings.leads_bound hone] using hx
  exact ⟨hnot, hnot'⟩

end Session

end QueryTyping
