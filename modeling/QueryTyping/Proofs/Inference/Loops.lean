import QueryTyping.Proofs.Inference.Concrete
import QueryTyping.Proofs.Inference.Session
import QueryTyping.Proofs.Loop

/-!
# Walks that follow every binding

The walks of `Bindings` take out each binding that they follow, and unification reads both types
once, before it writes. Here the same is done the plain way: bindings are followed as they are, for
as long as that takes, and unification looks at the bindings again at each step. Such a loop need
not end. It is given a number of steps, after which it is cut off without a result, and it ends
(`Ends`) if every number from some point on is enough.

In every session that is reached each of these loops ends, and with the result of the walk
(`Session.loops_end`). The reason is that bindings without cycles are read by induction
(`Bindings.Acyclic.induction`); unification ends because it opens a cast at each step.
-/

namespace QueryTyping

namespace Bindings

/-! ## The loops -/

/-- Follows the bindings of variables up to a type that is no variable, or a variable without
binding. -/
def resolveLoop (b : Bindings) : Nat → InferredType → Option InferredType
  | 0, _ => none
  | steps + 1, .var id =>
    match b.get? id with
    | some bound => b.resolveLoop steps bound
    | none => some (.var id)
  | _ + 1, ty => some ty

/-- Looks for a variable in a type and in what its variables are bound to. -/
def occursLoop (b : Bindings) (id : VarId) : Nat → InferredType → Option Bool
  | 0, _ => none
  | steps + 1, .var other =>
    if other = id then some true
    else
      match b.get? other with
      | some bound => b.occursLoop id steps bound
      | none => some false
  | steps + 1, .cast input result => do
    if ← b.occursLoop id steps input then return true
    b.occursLoop id steps result
  | _ + 1, .column _ | _ + 1, .oneOf _ => some false

/-- Goes from variable to variable, as long as they are bound to variables. -/
def lastLoop (b : Bindings) : Nat → VarId → Option VarId
  | 0, _ => none
  | steps + 1, id =>
    match b.get? id with
    | some (.var next) => b.lastLoop steps next
    | _ => some id

/-- The last variable, if the type is a variable. -/
def rootLoop (b : Bindings) (steps : Nat) : InferredType → Option (Option VarId)
  | .var id => do return some (← b.lastLoop steps id)
  | _ => some none

/-- The column type that a type comes down to. -/
def concreteLoop (b : Bindings) : Nat → InferredType → Option ColumnType
  | 0, _ => none
  | steps + 1, ty => do
    match ← b.resolveLoop steps ty with
    | .column ty => return ty
    | .oneOf alternatives => return alternatives.head?.getD .unknown
    | .cast input result =>
      let inner ← b.concreteLoop steps result
      let inherited := inner.nullable && (← b.resolveLoop steps result).isCast
      return inner.withNullable ((← b.concreteLoop steps input).nullable || inherited)
    | .var _ => return .unknown

/-- Binds a variable without binding to a type, which must not lead back to it. -/
def bindLoop (b : Bindings) (steps : Nat) (id : VarId) (ty : InferredType) : Option Unified := do
  if ← b.occursLoop id steps ty then
    return (.error (.incompatible (InferredType.var id).render ty.render), b)
  return (.ok ty, b.insert id ty)

/-- Makes the variable of a root stand for a type, unless the type is the variable or leads back
to it. -/
def assignRootLoop (b : Bindings) (steps : Nat) (root : Option VarId) (ty : InferredType) :
    Option Bindings :=
  match root with
  | none => some b
  | some id => do
    if ty = .var id then return b
    if ← b.occursLoop id steps ty then return b
    return b.insert id ty

/-- Lets the roots of both sides stand for the combined type. -/
def settleLoop (steps : Nat) (unified : Unified) (left right : Option VarId) : Option Unified :=
  match unified with
  | (.ok ty, b) => do
    let b ← b.assignRootLoop steps left ty
    return (.ok ty, ← b.assignRootLoop steps right ty)
  | (.error error, b) => some (.error error, b)

mutual

/-- Unifies two types: both are resolved and combined, and the result is written to the roots that
they had before. -/
def unifyLoop (b : Bindings) : Nat → InferredType → InferredType → Option Unified
  | 0, _, _ => none
  | steps + 1, left, right => do
    let leftRoot ← b.rootLoop steps left
    let rightRoot ← b.rootLoop steps right
    let unified ← b.combineLoop steps (← b.resolveLoop steps left) (← b.resolveLoop steps right)
    settleLoop steps unified leftRoot rightRoot

/-- Combines two resolved types. The result of an opened cast is unified with the other side. -/
def combineLoop (b : Bindings) : Nat → InferredType → InferredType → Option Unified
  | 0, _, _ => none
  | steps + 1, left, right =>
    match left, right with
    | .var x, .var y => if x = y then some (.ok (.var x), b) else b.bindLoop steps x (.var y)
    | .var x, other | other, .var x => b.bindLoop steps x other
    | .column l, .column r =>
      some (Unified.ofOption b (.column l) (.column r) ((l.meet r).map .column))
    | .oneOf alternatives, .column ty | .column ty, .oneOf alternatives =>
      some (Unified.ofOption b (.oneOf alternatives) (.column ty)
        (InferredType.narrow alternatives [ty]))
    | .oneOf l, .oneOf r =>
      some (Unified.ofOption b (.oneOf l) (.oneOf r) (InferredType.narrow l r))
    | .cast input result, other | other, .cast input result => do
      let unified ← b.unifyLoop steps result other
      return unified.underCast input

end

/-! ## Reading ends -/

variable {b : Bindings} {id : VarId} {l r : InferredType}

section Acyclic

variable (hb : b.Acyclic)
include hb

theorem Acyclic.resolveLoop_ends (ty : InferredType) :
    Ends (b.resolveLoop · ty) (b.resolve ty) := by
  apply Ends.succ
  induction ty using hb.induction with
  | column ty => simp [resolveLoop]
  | oneOf alternatives => simp [resolveLoop]
  | cast input result _ _ => simp [resolveLoop]
  | unbound id h => simp [resolveLoop, h]
  | bound id ty h ih =>
    simp only [resolveLoop, h, hb.resolve_bound h]
    exact ih.succ

theorem Acyclic.occursLoop_ends (id : VarId) (ty : InferredType) :
    Ends (b.occursLoop id · ty) (b.occurs id ty) := by
  apply Ends.succ
  induction ty using hb.induction with
  | column ty => simp [occursLoop, occurs]
  | oneOf alternatives => simp [occursLoop, occurs]
  | cast input result ihinput ihresult =>
    simp only [occursLoop, occurs_cast]
    refine ihinput.succ.bind_iff.mpr ?_
    cases b.occurs id input with
    | true => simp
    | false => simpa using ihresult.succ
  | unbound other h =>
    simp only [occursLoop, h, occurs_var_none h]
    by_cases hid : other = id <;> simp [hid]
  | bound other ty h ih =>
    simp only [occursLoop, h, hb.occurs_bound h]
    by_cases hid : other = id
    · simp [hid]
    · have hne : (other == id) = false := by simpa using hid
      simp only [hid, if_false, hne, Bool.false_or]
      exact ih.succ

theorem Acyclic.rootLoop_ends (ty : InferredType) : Ends (b.rootLoop · ty) (b.root ty) := by
  apply Ends.succ
  induction ty using hb.induction with
  | column ty => simp [rootLoop, root, Chain.root]
  | oneOf alternatives => simp [rootLoop, root, Chain.root]
  | cast input result _ _ => simp [rootLoop, root, Chain.root]
  | unbound id h => simp [rootLoop, lastLoop, root, h, Chain.root]
  | bound id ty h ih =>
    simp only [root, hb.chain_bound h, rootLoop, lastLoop, h]
    cases ty with
    | var next =>
      obtain ⟨x, hx⟩ := exists_root_var b next
      rw [Chain.rootAt_of_root_eq_some hx]
      exact ih.succ
    | column ty => simp [Chain.rootAt, Chain.root]
    | oneOf alternatives => simp [Chain.rootAt, Chain.root]
    | cast input result => simp [Chain.rootAt, Chain.root]

theorem Acyclic.concreteLoop_ends (ty : InferredType) :
    Ends (b.concreteLoop · ty) (b.concrete ty) := by
  apply Ends.succ
  induction ty using hb.induction with
  | column ty =>
    refine (hb.resolveLoop_ends (.column ty)).bind_iff.mpr ?_
    simp
  | oneOf alternatives =>
    refine (hb.resolveLoop_ends (.oneOf alternatives)).bind_iff.mpr ?_
    simp
  | cast input result ihinput ihresult =>
    refine (hb.resolveLoop_ends (.cast input result)).bind_iff.mpr ?_
    simp only [resolve_cast]
    refine ihresult.succ.bind_iff.mpr ?_
    refine (hb.resolveLoop_ends result).bind_iff.mpr ?_
    refine ihinput.succ.bind_iff.mpr ?_
    simp [concrete]
  | unbound id h =>
    refine (hb.resolveLoop_ends (.var id)).bind_iff.mpr ?_
    simp [resolve_var_none h, concrete_var_none h]
  | bound id ty h ih =>
    -- both are resolved to the same type
    refine (hb.resolveLoop_ends (.var id)).bind_iff.mpr ?_
    rw [hb.resolve_bound h, hb.concrete_bound h]
    exact (hb.resolveLoop_ends ty).bind_iff.mp ih

end Acyclic

/-! ## Unification ends -/

variable (steps : Nat)

theorem combineLoop_var_left {x : VarId} (h : ∀ y, r ≠ .var y) :
    b.combineLoop (steps + 1) (.var x) r = b.bindLoop steps x r := by
  rw [combineLoop]
  exact h

theorem combineLoop_var_right {y : VarId} (h : ∀ x, l ≠ .var x) :
    b.combineLoop (steps + 1) l (.var y) = b.bindLoop steps y l := by
  rw [combineLoop]
  exact h

theorem combineLoop_cast_left {input result : InferredType} (h : ∀ y, r ≠ .var y) :
    b.combineLoop (steps + 1) (.cast input result) r = do
      let unified ← b.unifyLoop steps result r
      return unified.underCast input := by
  rw [combineLoop]
  exact h

theorem combineLoop_cast_right {input result : InferredType} (h : ∀ x, l ≠ .var x)
    (hcast : l.isCast = false) :
    b.combineLoop (steps + 1) l (.cast input result) = do
      let unified ← b.unifyLoop steps result l
      return unified.underCast input := by
  rw [combineLoop]
  · exact h
  · rintro input result rfl
    cases hcast

omit steps

section Acyclic

variable (hb : b.Acyclic)
include hb

theorem Acyclic.bindLoop_ends (id : VarId) (ty : InferredType) :
    Ends (b.bindLoop · id ty) (b.bind id ty) := by
  refine (hb.occursLoop_ends id ty).bind_iff.mpr ?_
  rw [bind]
  cases b.occurs id ty <;> simp

theorem Acyclic.assignRootLoop_ends (root : Option VarId) (ty : InferredType) :
    Ends (b.assignRootLoop · root ty) (b.assignRoot root ty) := by
  cases root with
  | none => simp [assignRootLoop, Bindings.assignRoot]
  | some id =>
    rw [Bindings.assignRoot, Bindings.assign]
    -- the loop also leaves out a variable that is to stand for itself, which leads back to itself
    by_cases hty : ty = .var id
    · have hoccurs : b.occurs id ty = true := hb.occurs_iff.mpr (hty ▸ leads_var_self b id)
      simp [assignRootLoop, hty, hty ▸ hoccurs]
    · simp only [assignRootLoop, if_neg hty]
      refine (hb.occursLoop_ends id ty).bind_iff.mpr ?_
      cases b.occurs id ty <;> simp

theorem Acyclic.settleLoop_ends (outcome : Except TypeError InferredType)
    (left right : Option VarId) :
    Ends (settleLoop · (outcome, b) left right) (Unified.settle (outcome, b) left right) := by
  cases outcome with
  | error error => simp [settleLoop, Unified.settle]
  | ok ty =>
    refine (hb.assignRootLoop_ends left ty).bind_iff.mpr ?_
    refine ((hb.assignRoot left).assignRootLoop_ends right ty).bind_iff.mpr ?_
    simp [Unified.settle]

/-- Combining two chains that were read from bindings without cycles makes no cycle. -/
theorem Acyclic.combine : ((b.chain l).combine (b.chain r) b).2.Acyclic := by
  rcases hcombine : (b.chain l).combine (b.chain r) b with ⟨outcome, b'⟩
  cases outcome with
  | error error => exact combine_error hcombine ▸ hb
  | ok c => exact (hb.combine_ok rfl rfl hcombine).acyclic hb

/-- A unification ends if the combination of the resolved types does. -/
theorem Acyclic.unifyLoop_ends_of_combineLoop
    (h : Ends (b.combineLoop · (b.resolve l) (b.resolve r)) ((b.chain l).combine (b.chain r) b)) :
    Ends (b.unifyLoop · l r) (b.unify l r) := by
  apply Ends.succ
  simp only [unifyLoop]
  refine (hb.rootLoop_ends l).bind_iff.mpr ?_
  refine (hb.rootLoop_ends r).bind_iff.mpr ?_
  refine (hb.resolveLoop_ends l).bind_iff.mpr ?_
  refine (hb.resolveLoop_ends r).bind_iff.mpr ?_
  refine h.bind_iff.mpr ?_
  exact (hb.combine (l := l) (r := r)).settleLoop_ends _ (b.root l) (b.root r)

theorem Acyclic.combineLoop_ends {left right : Chain} (hl : b.chain l = left)
    (hr : b.chain r = right) :
    Ends (b.combineLoop · (b.resolve l) (b.resolve r)) (left.combine right b) := by
  have hleft : b.resolve l = left.type := by rw [← type_chain, hl]
  have hright : b.resolve r = right.type := by rw [← type_chain, hr]
  apply Ends.succ
  -- the chains get shorter with every cast that is opened, and the bindings stay as they were read
  fun_induction Chain.combine left right b generalizing l r with
  | case1 x => simp [hleft, hright, Chain.type, combineLoop]
  | case2 x y hne =>
    simp only [hleft, hright, Chain.type, combineLoop, if_neg hne]
    exact hb.bindLoop_ends x (.var y)
  | case3 x right hvar =>
    simp only [hleft, Chain.type, combineLoop_var_left _ (resolve_ne_var hr hvar)]
    exact hright ▸ hb.bindLoop_ends x (b.resolve r)
  | case4 left y hvar =>
    simp only [hright, Chain.type, combineLoop_var_right _ (resolve_ne_var hl hvar)]
    exact hleft ▸ hb.bindLoop_ends y (b.resolve l)
  | case5 => simp [hleft, hright, Chain.type, combineLoop]
  | case6 => simp [hleft, hright, Chain.type, combineLoop]
  | case7 => simp [hleft, hright, Chain.type, combineLoop]
  | case8 => simp [hleft, hright, Chain.type, combineLoop]
  | case9 root input result inner right hvar ih =>
    obtain ⟨rfl, -⟩ := hb.eq_chain_of_cast hl
    have hdetach : b.chain (b.resolve r) = right.detach := by rw [← hb.detach_chain, hr]
    have hloop := ih rfl hdetach (type_chain b result).symm (by rw [← type_chain, hdetach])
    rw [← hdetach] at hloop ⊢
    simp only [show b.resolve l = .cast input result from hleft,
      combineLoop_cast_left _ (resolve_ne_var hr hvar)]
    refine (hb.unifyLoop_ends_of_combineLoop hloop.succ).bind_iff.mpr ?_
    exact ends_const.mpr rfl
  | case10 left root input result inner hvar hcast ih =>
    obtain ⟨rfl, -⟩ := hb.eq_chain_of_cast hr
    have hdetach : b.chain (b.resolve l) = left.detach := by rw [← hb.detach_chain, hl]
    have hloop := ih rfl hdetach (type_chain b result).symm (by rw [← type_chain, hdetach])
    rw [← hdetach] at hloop ⊢
    simp only [show b.resolve r = .cast input result from hright,
      combineLoop_cast_right _ (resolve_ne_var hl hvar) (isCast_resolve_eq_false hl hcast)]
    refine (hb.unifyLoop_ends_of_combineLoop hloop.succ).bind_iff.mpr ?_
    exact ends_const.mpr rfl

theorem Acyclic.unifyLoop_ends (l r : InferredType) : Ends (b.unifyLoop · l r) (b.unify l r) :=
  hb.unifyLoop_ends_of_combineLoop (hb.combineLoop_ends rfl rfl)

end Acyclic

end Bindings

/-- In every session that is reached no variable leads back to itself, and following the bindings
as they are comes to an end: resolving, looking for a variable, going to the last variable, reading
a column type and unifying all give the result of the walk that takes bindings out. -/
theorem Session.loops_end {s : Session} (hs : s.Reachable) :
    s.bindings.Acyclic ∧
      (∀ ty, Ends (s.bindings.resolveLoop · ty) (s.bindings.resolve ty)) ∧
      (∀ id ty, Ends (s.bindings.occursLoop id · ty) (s.bindings.occurs id ty)) ∧
      (∀ ty, Ends (s.bindings.rootLoop · ty) (s.bindings.root ty)) ∧
      (∀ ty, Ends (s.bindings.concreteLoop · ty) (s.bindings.concrete ty)) ∧
      ∀ l r, Ends (s.bindings.unifyLoop · l r) (s.bindings.unify l r) := by
  have hb := hs.acyclic
  exact ⟨hb, hb.resolveLoop_ends, hb.occursLoop_ends, hb.rootLoop_ends, hb.concreteLoop_ends,
    hb.unifyLoop_ends⟩

/-- A parameter that was unified with its own cast, a variable that was never taken, and a last
unification that fails. -/
theorem Session.loops_end_after_own_cast :
    let s := run {} [
      .parameter (.positional 1),
      .unify (.var 0) (.column (.notNull .integer)),
      .unify (.var 0) (.cast (.var 0) (.column (.notNull .integer))),
      .unify (.var 7) (.cast (.var 0) (.var 9)),
      .unify (.var 9) (.var 7)]
    s.Reachable ∧ Ends (s.bindings.concreteLoop · (.var 7)) (.notNull .any) := by
  intro s
  have hs : s.Reachable := ⟨_, _, rfl⟩
  have hconcrete : s.bindings.concrete (.var 7) = .notNull .any := by decide +kernel
  exact ⟨hs, hconcrete ▸ (Session.loops_end hs).2.2.2.2.1 (.var 7)⟩

end QueryTyping
