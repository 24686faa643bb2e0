import QueryTyping.Inference.Bindings

/-!
# Chains of casts

What a type comes to when its bindings are followed along the positions that carry the type of a
value: through bound variables and through the results of casts, never through the inputs of
casts. The walk meets casts, outermost first, and ends at a column type, at alternatives, or at a
variable without binding.

A link of the chain that was reached through a variable is rooted at that variable: at the last
one, if variables were bound to variables. A later unification binds the roots anew.
-/

namespace QueryTyping

/-- A type read through the bindings, layer by layer. -/
inductive Chain where
  /-- It ends in a column type. -/
  | column (root : Option VarId) (type : ColumnType)
  /-- It ends in alternatives. -/
  | oneOf (root : Option VarId) (alternatives : List ColumnType)
  /-- It ends in a variable without binding, which is its own root. -/
  | unbound (id : VarId)
  /-- It goes on: a cast, and the chain of the result of the cast. -/
  | cast (root : Option VarId) (input result : InferredType) (inner : Chain)
  deriving DecidableEq

namespace Chain

/-- How many links a chain has. -/
def length : Chain → Nat
  | column _ _ => 1
  | oneOf _ _ => 1
  | unbound _ => 1
  | cast _ _ _ inner => inner.length + 1

/-- The first type of the chain that is no bound variable. -/
def type : Chain → InferredType
  | column _ ty => .column ty
  | oneOf _ alternatives => .oneOf alternatives
  | unbound id => .var id
  | cast _ input result _ => .cast input result

/-- The variable through which the chain was reached. -/
def root : Chain → Option VarId
  | column root _ => root
  | oneOf root _ => root
  | unbound id => some id
  | cast root _ _ _ => root

/-- The chain reached through a variable; a chain that has a root keeps it. -/
def rootAt (id : VarId) : Chain → Chain
  | column none ty => column (some id) ty
  | oneOf none alternatives => oneOf (some id) alternatives
  | cast none input result inner => cast (some id) input result inner
  | chain => chain

/-- The chain of its own first type, which is reached through no variable. -/
def detach : Chain → Chain
  | column _ ty => column none ty
  | oneOf _ alternatives => oneOf none alternatives
  | unbound id => unbound id
  | cast _ input result inner => cast none input result inner

@[simp] theorem type_rootAt (id : VarId) (chain : Chain) :
    (chain.rootAt id).type = chain.type := by
  unfold rootAt; split <;> rfl

@[simp] theorem length_detach (chain : Chain) : chain.detach.length = chain.length := by
  cases chain <;> rfl

@[simp] theorem type_detach (chain : Chain) : chain.detach.type = chain.type := by
  cases chain <;> rfl

end Chain

namespace Bindings

/-- Reads a type through the bindings. -/
def chain (b : Bindings) (ty : InferredType) : Chain :=
  match ty with
  | .column ty => .column none ty
  | .oneOf alternatives => .oneOf none alternatives
  | .cast input result => .cast none input result (b.chain result)
  | .var id =>
    match _h : b.get? id with
    | some bound => ((b.erase id).chain bound).rootAt id
    | none => .unbound id
termination_by b.weight + ty.size
decreasing_by
  · simp only [InferredType.size]; omega
  · exact weight_erase_lt _h

/-- The chain begins with what the type resolves to. -/
theorem type_chain (b : Bindings) (ty : InferredType) : (b.chain ty).type = b.resolve ty := by
  fun_induction chain b ty with
  | case1 => simp [resolve, Chain.type]
  | case2 => simp [resolve, Chain.type]
  | case3 => simp [resolve, Chain.type]
  | case4 b id bound h ih =>
    rw [resolve]
    split
    · next bound' h' => simp_all
    · next h' => simp_all
  | case5 b id h =>
    rw [resolve]
    split
    · next bound' h' => simp_all
    · next h' => simp [Chain.type]

end Bindings

end QueryTyping
