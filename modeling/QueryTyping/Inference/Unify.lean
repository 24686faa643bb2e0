import QueryTyping.Error
import QueryTyping.Inference.Chain

/-!
# Unification

Unifying two types records that they describe the same value. Both are read through the bindings
(`Bindings.chain`) and compared link by link: the casts on the left are opened first, then those
on the right, and what is left on both sides is combined. A variable without binding is bound to
what stands on the other side. On the way back the combined type is written to the variables
through which the two sides were reached.

A call yields the combined type or an error, and the bindings after it in either case.
-/

namespace QueryTyping

/-- What a step of unification yields, and the bindings after it. -/
abbrev Unified := Except TypeError InferredType × Bindings

namespace Bindings

/-- Binds a variable without binding to a type, which must not lead back to it. -/
def bind (b : Bindings) (id : VarId) (ty : InferredType) : Unified :=
  if b.occurs id ty then (.error (.incompatible (InferredType.var id).render ty.render), b)
  else (.ok ty, b.insert id ty)

end Bindings

namespace Unified

/-- The bindings are left as they are; there is a combined type or the two types clash. -/
def ofOption (b : Bindings) (left right : InferredType) : Option InferredType → Unified
  | some ty => (.ok ty, b)
  | none => (.error (.incompatible left.render right.render), b)

/-- Puts the cast that was opened around the combined type. -/
def underCast (unified : Unified) (input : InferredType) : Unified :=
  match unified with
  | (.ok result, b) => (.ok (.cast input result), b)
  | (.error error, b) => (.error error, b)

/-- Lets the roots of both sides stand for the combined type. -/
def settle (unified : Unified) (left right : Option VarId) : Unified :=
  match unified with
  | (.ok ty, b) => (.ok ty, (b.assignRoot left ty).assignRoot right ty)
  | (.error error, b) => (.error error, b)

end Unified

namespace Chain

/-- Combines two types that were read through the bindings `b`. The types under a cast are unified
in full: their roots are written before the cast is put back. -/
def combine (left right : Chain) (b : Bindings) : Unified :=
  match left, right with
  | .unbound x, .unbound y => if x = y then (.ok (.var x), b) else b.bind x (.var y)
  | .unbound x, right => b.bind x right.type
  | left, .unbound y => b.bind y left.type
  | .column _ l, .column _ r =>
    Unified.ofOption b (.column l) (.column r) ((l.meet r).map .column)
  | .oneOf _ alternatives, .column _ ty | .column _ ty, .oneOf _ alternatives =>
    Unified.ofOption b (.oneOf alternatives) (.column ty)
      (InferredType.narrow alternatives [ty])
  | .oneOf _ l, .oneOf _ r => Unified.ofOption b (.oneOf l) (.oneOf r) (InferredType.narrow l r)
  | .cast _ input _ inner, right =>
    ((inner.combine right.detach b).settle inner.root right.detach.root).underCast input
  | left, .cast _ input _ inner =>
    ((inner.combine left.detach b).settle inner.root left.detach.root).underCast input
termination_by left.length + right.length
decreasing_by
  all_goals simp only [Chain.length_detach, Chain.length]; omega

/-- Unifies two types that were read through the bindings `b`. -/
def unify (left right : Chain) (b : Bindings) : Unified :=
  (left.combine right b).settle left.root right.root

end Chain

namespace Bindings

/-- Records that two types describe the same value. -/
def unify (b : Bindings) (left right : InferredType) : Unified :=
  (b.chain left).unify (b.chain right) b

end Bindings

end QueryTyping
