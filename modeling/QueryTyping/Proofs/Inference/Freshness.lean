import QueryTyping.Proofs.Inference.CastShape
import QueryTyping.Proofs.Inference.Outcomes
import QueryTyping.Proofs.Inference.Parameters

/-!
# Fresh variables

Statements pass types on to each other. Where they pass only types in which variables stand that
were handed out before, no inference knows of any other variable: unifications make new types from
the variables that they are given (`Bindings.Within.unify`), and no number is handed out twice. So a
variable that was not handed out before means nothing to any statement yet, and goes with every type
in which it does not stand (`Batch.fresh_across_statements`).
-/

namespace QueryTyping

/-- Only these variables stand in the type. -/
def InferredType.Within (ty : InferredType) (ids : List VarId) : Prop :=
  ∀ id, ty.mentions id = true → id ∈ ids

namespace Bindings

variable {b b' : Bindings} {ids ids' : List VarId} {v x : VarId} {l r c t : InferredType}

/-! ## Variables that bindings are made of -/

/-- Only these variables are bound, and only they stand in the types that are bound. -/
structure Within (b : Bindings) (ids : List VarId) : Prop where
  mem : ∀ v ty, b.get? v = some ty → v ∈ ids
  allBound : b.AllBound (·.Within ids)

theorem within_empty (ids : List VarId) : empty.Within ids where
  mem _ _ h := by cases h
  allBound := allBound_empty _

theorem Within.mono (h : b.Within ids) (hsubset : ids ⊆ ids') : b.Within ids' where
  mem v ty hv := hsubset (h.mem v ty hv)
  allBound v ty hv id hid := hsubset (h.allBound v ty hv id hid)

theorem Within.mem_of_leads (h : b.Within ids) (ht : t.Within ids) (hleads : b.Leads t x) :
    x ∈ ids := by
  obtain ⟨v, hv, hpath⟩ := hleads
  cases hpath with
  | refl => exact ht x hv
  | tail _ hstep =>
    obtain ⟨bound, hbound, hx⟩ := hstep
    exact h.allBound _ bound hbound x hx

theorem Combines.allBound_within (hb : b.Acyclic) (h : Combines b l r c b')
    (hbound : b.AllBound (·.Within ids)) (hl : l.Within ids) (hr : r.Within ids) :
    c.Within ids ∧ b'.AllBound (·.Within ids) := by
  refine h.allBound hb ?_ ?_ ?_ hbound hl hr
  · intro l r m _ _ hmeet id hid
    rw [(InferredType.isEnd_of_meet hmeet).not_mentions] at hid
    cases hid
  · intro input result hcast id hid
    exact hcast id (by simp [InferredType.mentions, hid])
  · intro input result r c b₁ hcast _ _ _ hc id hid
    rw [InferredType.mentions, Bool.or_eq_true] at hid
    rcases hid with hid | hid
    · exact hcast id (by simp [InferredType.mentions, hid])
    · exact hc id hid

/-- A unification brings in no variables, neither with its result nor with new bindings. -/
theorem Within.unify (hb : b.Acyclic) (h : b.Within ids) (hl : l.Within ids) (hr : r.Within ids)
    (hunify : b.unify l r = (.ok c, b')) : c.Within ids ∧ b'.Within ids := by
  have htypes : c.Within ids ∧ b'.AllBound (·.Within ids) := by
    obtain ⟨b₁, hcombines, rfl⟩ := hb.unify_ok hunify
    obtain ⟨hc, hb₁⟩ := hcombines.allBound_within hb h.allBound hl hr
    exact ⟨hc, (hb₁.assignRoot _ hc).assignRoot _ hc⟩
  refine ⟨htypes.1, ?_, htypes.2⟩
  intro v ty hv
  -- a variable through which neither type is read keeps its binding
  by_cases hleft : v ∈ b.roots l
  · exact h.mem_of_leads hl (hb.leads_of_mem_roots hleft)
  · by_cases hright : v ∈ b.roots r
    · exact h.mem_of_leads hr (hb.leads_of_mem_roots hright)
    · rw [hb.get?_unify hunify hleft hright] at hv
      exact h.mem v ty hv

/-! ## Variables that bindings know nothing of -/

/-- The variable is not bound and stands in no type that is bound. -/
structure Unheard (v : VarId) (b : Bindings) : Prop where
  unbound : b.get? v = none
  unmentioned : b.AllBound (·.mentions v = false)

theorem Within.unheard (h : b.Within ids) (hv : v ∉ ids) : Unheard v b where
  unbound := by
    cases hget : b.get? v with
    | none => rfl
    | some ty => exact absurd (h.mem v ty hget) hv
  unmentioned w ty hw := Bool.eq_false_iff.mpr fun hmentions => hv (h.allBound w ty hw v hmentions)

theorem Unheard.not_leads (h : Unheard v b) (ht : t.mentions v = false) : ¬b.Leads t v := by
  rintro ⟨w, hw, hpath⟩
  cases hpath with
  | refl =>
    rw [ht] at hw
    cases hw
  | tail _ hstep =>
    obtain ⟨bound, hbound, hv⟩ := hstep
    rw [h.unmentioned _ bound hbound] at hv
    cases hv

theorem Unheard.resolve_eq (h : Unheard v b) : b.resolve (.var v) = .var v :=
  resolve_var_none h.unbound

/-- Such a variable goes with every type in which it does not stand. -/
theorem Unheard.isOk_unify (hb : b.Acyclic) (h : Unheard v b) (ht : t.mentions v = false) :
    (b.unify (.var v) t).1.isOk = true ∧ (b.unify t (.var v)).1.isOk = true := by
  have hleads : ¬b.Leads (b.resolve t) v := h.not_leads (h.unmentioned.resolve hb ht)
  refine ⟨by rw [hb.unify_var_left h.resolve_eq hleads]; rfl, ?_⟩
  by_cases hvar : ∃ y, b.resolve t = .var y
  · obtain ⟨y, hy⟩ := hvar
    -- the type comes to another variable, which is bound to this one
    have hother : ¬b.Leads (b.resolve (.var v)) y := by
      rw [h.resolve_eq, leads_unbound h.unbound]
      rintro rfl
      exact hleads (hy ▸ leads_var_self b v)
    rw [hb.unify_var_left hy hother]
    rfl
  · rw [hb.unify_var_right (fun y hy => hvar ⟨y, hy⟩) h.resolve_eq hleads]
    rfl

end Bindings

namespace Batch

variable {batch : Batch} {statement other : Nat} {asked : Request} {supply : Supply} {v : VarId}
  {requests : List (Nat × Request)}

/-! ## Variables that were handed out -/

/-- Some request was handed the variable. -/
def HandedOut (supply : Supply) (requests : List (Nat × Request)) (v : VarId) : Prop :=
  ∃ before statement asked, HandsOut supply requests before statement asked v

/-- Only variables that were handed out stand in the type. -/
def AllHandedOut (supply : Supply) (requests : List (Nat × Request)) (ty : InferredType) : Prop :=
  ∀ id, ty.mentions id = true → HandedOut supply requests id

theorem handedOut_append_singleton :
    HandedOut supply (requests ++ [(statement, asked)]) v ↔
      HandedOut supply requests v ∨
        (run { supply } requests).handed statement asked = some (.var v) := by
  constructor
  · rintro ⟨before, i, r, hmade, hhanded⟩
    rcases List.prefix_concat_iff.mp hmade with heq | hmade
    · obtain ⟨rfl, hentry⟩ := List.append_inj' heq rfl
      cases hentry
      exact Or.inr hhanded
    · exact Or.inl ⟨before, i, r, hmade, hhanded⟩
  · rintro (⟨before, i, r, hmade, hhanded⟩ | hhanded)
    · exact ⟨before, i, r, hmade.trans (List.prefix_append _ _), hhanded⟩
    · exact ⟨requests, statement, asked, List.prefix_rfl, hhanded⟩

/-- A request takes the variable that it is handed, unless it was taken before. -/
theorem Assigned.mem_taken_request_iff (h : batch.Assigned) :
    v ∈ (batch.request statement asked).taken ↔
      v ∈ batch.taken ∨ batch.handed statement asked = some (.var v) := by
  cases asked with
  | fresh =>
    rw [request_fresh, taken_take, List.mem_cons, or_comm]
    simp [handed, Supply.fresh, eq_comm]
  | parameter p =>
    rw [handed_parameter]
    cases hp : batch.variableOf statement p with
    | none =>
      rw [request_parameter_of_none hp]
      simp [assign, or_comm, eq_comm]
    | some w =>
      rw [request_parameter_of_some hp]
      have hw : w = v → v ∈ batch.taken := by
        rintro rfl
        exact h.mem_taken statement p w hp
      simpa using hw
  | unify l r => simp [Batch.request, replace, handed]
  | concrete ty => simp [Batch.request, handed]

/-- The variables that were taken from the supply are those that were handed out. -/
theorem handedOut_iff (hfew : (run { supply } requests).taken.length < 2 ^ 64) :
    HandedOut supply requests v ↔ v ∈ (run { supply } requests).taken := by
  induction requests using List.reverseRecOn with
  | nil =>
    constructor
    · rintro ⟨before, i, r, hmade, -⟩
      simp at hmade
    · intro hv
      cases hv
  | append_singleton requests entry ih =>
    have hbefore := few_of_append hfew
    obtain ⟨-, hassigned⟩ := counted_run supply hbefore
    rw [handedOut_append_singleton, ih hbefore, run_append, run_cons, run_nil,
      hassigned.mem_taken_request_iff]

theorem allHandedOut_iff (hfew : (run { supply } requests).taken.length < 2 ^ 64)
    {ty : InferredType} :
    AllHandedOut supply requests ty ↔ ty.Within (run { supply } requests).taken :=
  forall₂_congr fun _ _ => handedOut_iff hfew

/-! ## What the statements know -/

/-- A request keeps the bindings of all statements, unless it unifies two types with success. -/
theorem bindings_request_cases (batch : Batch) (statement other : Nat) (asked : Request) :
    ((batch.request statement asked).inferences other).bindings =
      (batch.inferences other).bindings ∨
    ∃ l r c, asked = .unify l r ∧ (batch.inferences other).bindings.unify l r =
      (.ok c, ((batch.request statement asked).inferences other).bindings) := by
  rcases batch.request_cases statement asked with h | ⟨-, h⟩ | ⟨p, -, -, h⟩ |
    ⟨l, r, c, b, rfl, hunify, h⟩
  · exact Or.inl (by rw [h])
  · exact Or.inl (by rw [h]; rfl)
  · refine Or.inl ?_
    by_cases hother : other = statement
    · subst hother
      simp [h, assign, withInference]
    · simp [h, assign, withInference, hother]
  · by_cases hother : other = statement
    · subst hother
      exact Or.inr ⟨l, r, c, rfl, by simpa [h, withInference] using hunify⟩
    · exact Or.inl (by simp [h, withInference, hother])

/-- No inference knows of a variable that was not taken from the supply. -/
structure Closed (batch : Batch) : Prop where
  acyclic : ∀ i, (batch.inferences i).bindings.Acyclic
  within : ∀ i, (batch.inferences i).bindings.Within batch.taken

theorem Closed.request (h : batch.Closed) (htypes : ∀ ty ∈ asked.types, ty.Within batch.taken) :
    (batch.request statement asked).Closed := by
  have hsubset := (batch.taken_suffix_request statement asked).subset
  constructor
  · intro i
    rcases batch.bindings_request_cases statement i asked with heq | ⟨l, r, c, -, hunify⟩
    · exact heq ▸ h.acyclic i
    · exact (h.acyclic i).of_unify hunify
  · intro i
    rcases batch.bindings_request_cases statement i asked with heq | ⟨l, r, c, rfl, hunify⟩
    · rw [heq]
      exact (h.within i).mono hsubset
    · have hl := htypes l List.mem_cons_self
      have hr := htypes r (List.mem_cons_of_mem l List.mem_cons_self)
      exact ((h.within i).unify (h.acyclic i) hl hr hunify).2.mono hsubset

/-- In the types that are passed with a request stand only variables that were handed out before, to
whichever statement. -/
inductive Informed (supply : Supply) : List (Nat × Request) → Prop where
  | nil : Informed supply []
  | snoc {requests : List (Nat × Request)} {statement : Nat} {asked : Request}
      (h : Informed supply requests)
      (hknown : ∀ ty ∈ asked.types, AllHandedOut supply requests ty) :
      Informed supply (requests ++ [(statement, asked)])

theorem Informed.closed (h : Informed supply requests)
    (hfew : (run { supply } requests).taken.length < 2 ^ 64) :
    (run { supply } requests).Closed := by
  induction h with
  | nil => exact ⟨fun _ => Bindings.acyclic_empty, fun _ => Bindings.within_empty []⟩
  | snoc _ hknown ih =>
    have hbefore := few_of_append hfew
    rw [run_append]
    exact (ih hbefore).request fun ty hty => (allHandedOut_iff hbefore).mp (hknown ty hty)

/-! ## New variables -/

/-- A request that was not made before is handed the next variable. -/
theorem handed_eq_next (hnew : asked = .fresh ∨ (statement, asked) ∉ requests)
    (hv : (run { supply } requests).handed statement asked = some (.var v)) :
    v = (run { supply } requests).supply.next := by
  cases asked with
  | fresh =>
    cases hv
    rfl
  | parameter p =>
    have hp : (run { supply } requests).variableOf statement p = none := by
      rw [variableOf_eq_none_iff, parameters_run, List.mem_eraseDups, mem_askedBy_iff]
      simpa using hnew
    rw [handed_parameter, hp] at hv
    cases hv
    rfl
  | unify l r => cases hv
  | concrete ty => cases hv

/-- Two requests are handed one variable only if they are for one parameter of one statement, and
all variables that an inference knows of or gives back were handed out before. So a variable that is
handed out for the first time means nothing to any statement: it is not bound and stands in no type
that is bound, it comes down to the type of which nothing is known, and it can be unified with every
type in which it does not stand. -/
theorem fresh_across_statements (hfew : (run { supply } requests).taken.length < 2 ^ 64)
    (hinformed : Informed supply requests) :
    (∀ before later i j r q v w, HandsOut supply requests before i r v →
      HandsOut supply requests later j q w → before.length < later.length →
      (v = w ↔ i = j ∧ ∃ p, r = .parameter p ∧ q = .parameter p)) ∧
    (∀ i x ty, ((run { supply } requests).inferences i).bindings.get? x = some ty →
      HandedOut supply requests x ∧ AllHandedOut supply requests ty) ∧
    (∀ i l r c, AllHandedOut supply requests l → AllHandedOut supply requests r →
      (((run { supply } requests).inferences i).unify l r).1 = .ok c →
      AllHandedOut supply requests c) ∧
    ∀ statement asked v, asked = .fresh ∨ (statement, asked) ∉ requests →
      (run { supply } requests).handed statement asked = some (.var v) →
      ¬HandedOut supply requests v ∧
      ∀ i, let inference := ((run { supply } requests).request statement asked).inferences i
        inference.bindings.get? v = none ∧
        (∀ x ty, inference.bindings.get? x = some ty → ty.mentions v = false) ∧
        inference.concrete (.var v) = ⟨true, .any⟩ ∧
        ∀ ty, ty.mentions v = false → (inference.unify (.var v) ty).1.isOk = true ∧
          (inference.unify ty (.var v)).1.isOk = true := by
  have hclosed := hinformed.closed hfew
  refine ⟨fun _ _ _ _ _ _ _ _ => HandsOut.eq_iff hfew, ?_, ?_, ?_⟩
  · intro i x ty hx
    exact ⟨(handedOut_iff hfew).mpr ((hclosed.within i).mem x ty hx),
      (allHandedOut_iff hfew).mpr ((hclosed.within i).allBound x ty hx)⟩
  · intro i l r c hl hr hc
    rw [allHandedOut_iff hfew] at hl hr ⊢
    exact ((hclosed.within i).unify (hclosed.acyclic i) hl hr (Prod.ext hc rfl)).1
  · intro statement asked v hnew hhanded
    obtain rfl := handed_eq_next hnew hhanded
    obtain ⟨hcounted, -⟩ := counted_run supply hfew
    have hfresh := hcounted.next_not_mem hfew
    refine ⟨fun h => hfresh ((handedOut_iff hfew).mp h), ?_⟩
    intro i inference
    have hbindings : inference.bindings = ((run { supply } requests).inferences i).bindings := by
      rcases bindings_request_cases _ statement i asked with heq | ⟨l, r, c, rfl, -⟩
      · exact heq
      · cases hhanded
    have hacyclic : inference.bindings.Acyclic := hbindings ▸ hclosed.acyclic i
    have hunheard : Bindings.Unheard _ inference.bindings :=
      hbindings ▸ (hclosed.within i).unheard hfresh
    exact ⟨hunheard.unbound, hunheard.unmentioned, Bindings.concrete_var_none hunheard.unbound,
      fun ty hty => hunheard.isOk_unify hacyclic hty⟩

/-- A statement passes the variable of a parameter on to another one, which binds a variable of its
own to a cast of it. The variable that is taken next goes with this cast. -/
theorem fresh_across_statements_of_shared :
    let cast : InferredType := .cast (.var 0) (.column (.notNull .integer))
    let requests : List (Nat × Request) :=
      [(0, .parameter (.named ":low")), (1, .fresh), (1, .unify (.var 1) cast)]
    let inference := ((run {} requests).request 0 .fresh).inferences 1
    (run {} requests).taken.length < 2 ^ 64 ∧ Informed {} requests ∧
      (run {} requests).handed 0 .fresh = some (.var 2) ∧ ¬HandedOut {} requests 2 ∧
      inference.concrete (.var 2) = ⟨true, .any⟩ ∧
      inference.bindings.get? 1 = some cast ∧ (inference.unify (.var 1) (.var 2)).1.isOk = true := by
  intro cast requests inference
  have hfew : (run {} requests).taken.length < 2 ^ 64 := by decide +kernel
  let before : List (Nat × Request) := [] ++ [(0, .parameter (.named ":low"))] ++ [(1, .fresh)]
  have hbefore : Informed {} before :=
    .snoc (.snoc .nil fun ty hty => by cases hty) fun ty hty => by cases hty
  have htaken : (run {} before).taken = [1, 0] := by decide +kernel
  have hinformed : Informed {} (before ++ [(1, .unify (.var 1) cast)]) := by
    refine hbefore.snoc fun ty hty id hid => ?_
    rw [handedOut_iff (by rw [htaken]; decide), htaken]
    simp only [Request.types, List.mem_cons, List.not_mem_nil, or_false] at hty
    rcases hty with rfl | rfl
    · obtain rfl : 1 = id := by simpa [InferredType.mentions] using hid
      exact List.mem_cons_self
    · obtain rfl : 0 = id := by simpa [cast, InferredType.mentions] using hid
      exact List.mem_cons_of_mem 1 List.mem_cons_self
  have hhanded : (run {} requests).handed 0 .fresh = some (.var 2) := by decide +kernel
  obtain ⟨-, -, -, hfresh⟩ := fresh_across_statements hfew hinformed
  obtain ⟨hnew, hknows⟩ := hfresh 0 .fresh 2 (Or.inl rfl) hhanded
  obtain ⟨-, -, hconcrete, hunify⟩ := hknows 1
  exact ⟨hfew, hinformed, hhanded, hnew, hconcrete, by decide +kernel,
    (hunify (.var 1) (by decide)).2⟩

end Batch

end QueryTyping
