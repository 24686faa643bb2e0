import QueryTyping.Proofs.Inference.Acyclic

/-!
# What the chain of a type says

A chain holds the casts that are met on the way from a type to its end. Three things are read off
it: the root, which is the last variable on the way to the first type that is no variable, and the
roots behind it; the inputs of the casts; and the ending, which is a column type, alternatives or a
variable without binding.

* `Acyclic.detach_chain`, `Acyclic.eq_chain_of_cast` — the parts of a chain are chains themselves
* `Acyclic.chain_root` — a type and its root have the same chain
* `Acyclic.root_not_bound_to_var` — a root is not bound to a variable
-/

namespace QueryTyping

/-- The casts with the given inputs around a type, outermost first. -/
def InferredType.casts : List InferredType → InferredType → InferredType
  | [], ty => ty
  | input :: inputs, ty => .cast input (casts inputs ty)

namespace Chain

/-- The inputs of the casts, outermost first. -/
def inputs : Chain → List InferredType
  | column _ _ => []
  | oneOf _ _ => []
  | unbound _ => []
  | cast _ input _ inner => input :: inner.inputs

/-- The variables through which the links were reached, outermost first. -/
def roots : Chain → List VarId
  | column root _ => root.toList
  | oneOf root _ => root.toList
  | unbound id => [id]
  | cast root _ _ inner => root.toList ++ inner.roots

/-- The type behind all casts. -/
def ending : Chain → InferredType
  | column _ ty => .column ty
  | oneOf _ alternatives => .oneOf alternatives
  | unbound id => .var id
  | cast _ _ _ inner => inner.ending

@[simp] theorem inputs_rootAt (id : VarId) (chain : Chain) :
    (chain.rootAt id).inputs = chain.inputs := by
  unfold rootAt; split <;> rfl

@[simp] theorem ending_rootAt (id : VarId) (chain : Chain) :
    (chain.rootAt id).ending = chain.ending := by
  unfold rootAt; split <;> rfl

@[simp] theorem detach_rootAt (id : VarId) (chain : Chain) :
    (chain.rootAt id).detach = chain.detach := by
  unfold rootAt; split <;> rfl

theorem rootAt_of_root_eq_some {id x : VarId} {chain : Chain} (h : chain.root = some x) :
    chain.rootAt id = chain := by
  cases chain with
  | column root _ => cases h; rfl
  | oneOf root _ => cases h; rfl
  | unbound _ => rfl
  | cast root _ _ _ => cases h; rfl

theorem root_rootAt_of_root_eq_none {id : VarId} {chain : Chain} (h : chain.root = none) :
    (chain.rootAt id).root = some id := by
  cases chain with
  | column root _ => cases h; rfl
  | oneOf root _ => cases h; rfl
  | unbound _ => cases h
  | cast root _ _ _ => cases h; rfl

theorem roots_rootAt_of_root_eq_none {id : VarId} {chain : Chain} (h : chain.root = none) :
    (chain.rootAt id).roots = id :: chain.roots := by
  cases chain with
  | column root _ => cases h; rfl
  | oneOf root _ => cases h; rfl
  | unbound _ => cases h
  | cast root _ _ _ => cases h; rfl

end Chain

namespace Bindings

variable {b : Bindings} {id x y : VarId} {ty bound : InferredType}

/-- The last variable on the way to the first type that is no variable. -/
def root (b : Bindings) (ty : InferredType) : Option VarId := (b.chain ty).root

/-- The inputs of the casts that a type comes to, outermost first. -/
def inputs (b : Bindings) (ty : InferredType) : List InferredType := (b.chain ty).inputs

/-- The variables through which a type is read, outermost first. -/
def roots (b : Bindings) (ty : InferredType) : List VarId := (b.chain ty).roots

/-- What a type comes to behind all casts. -/
def ending (b : Bindings) (ty : InferredType) : InferredType := (b.chain ty).ending

/-! ## Types that are no variables -/

@[simp] theorem chain_column (b : Bindings) (ty : ColumnType) :
    b.chain (.column ty) = .column none ty := by
  rw [chain]

@[simp] theorem chain_oneOf (b : Bindings) (alternatives : List ColumnType) :
    b.chain (.oneOf alternatives) = .oneOf none alternatives := by
  rw [chain]

@[simp] theorem chain_cast (b : Bindings) (input result : InferredType) :
    b.chain (.cast input result) = .cast none input result (b.chain result) := by
  rw [chain]

@[simp] theorem resolve_column (b : Bindings) (ty : ColumnType) :
    b.resolve (.column ty) = .column ty := by
  simp [← type_chain, Chain.type]

@[simp] theorem resolve_oneOf (b : Bindings) (alternatives : List ColumnType) :
    b.resolve (.oneOf alternatives) = .oneOf alternatives := by
  simp [← type_chain, Chain.type]

@[simp] theorem resolve_cast (b : Bindings) (input result : InferredType) :
    b.resolve (.cast input result) = .cast input result := by
  simp [← type_chain, Chain.type]

@[simp] theorem resolve_var_none (h : b.get? id = none) : b.resolve (.var id) = .var id := by
  simp [← type_chain, h, Chain.type]

theorem resolve_of_ne_var (b : Bindings) (h : ∀ x, ty ≠ .var x) : b.resolve ty = ty := by
  cases ty with
  | column ty => exact resolve_column b ty
  | oneOf alternatives => exact resolve_oneOf b alternatives
  | cast input result => exact resolve_cast b input result
  | var id => exact (h id rfl).elim

@[simp] theorem ending_column (b : Bindings) (ty : ColumnType) :
    b.ending (.column ty) = .column ty := by
  simp [ending, Chain.ending]

@[simp] theorem ending_oneOf (b : Bindings) (alternatives : List ColumnType) :
    b.ending (.oneOf alternatives) = .oneOf alternatives := by
  simp [ending, Chain.ending]

@[simp] theorem ending_cast (b : Bindings) (input result : InferredType) :
    b.ending (.cast input result) = b.ending result := by
  simp [ending, Chain.ending]

@[simp] theorem ending_var_none (h : b.get? id = none) : b.ending (.var id) = .var id := by
  simp [ending, h, Chain.ending]

@[simp] theorem inputs_column (b : Bindings) (ty : ColumnType) : b.inputs (.column ty) = [] := by
  simp [inputs, Chain.inputs]

@[simp] theorem inputs_oneOf (b : Bindings) (alternatives : List ColumnType) :
    b.inputs (.oneOf alternatives) = [] := by
  simp [inputs, Chain.inputs]

@[simp] theorem inputs_var_none (h : b.get? id = none) : b.inputs (.var id) = [] := by
  simp [inputs, h, Chain.inputs]

@[simp] theorem inputs_cast (b : Bindings) (input result : InferredType) :
    b.inputs (.cast input result) = input :: b.inputs result := by
  simp [inputs, Chain.inputs]

@[simp] theorem roots_cast (b : Bindings) (input result : InferredType) :
    b.roots (.cast input result) = b.roots result := by
  simp [roots, Chain.roots]

@[simp] theorem roots_casts (b : Bindings) (inputs : List InferredType) (ty : InferredType) :
    b.roots (.casts inputs ty) = b.roots ty := by
  induction inputs with
  | nil => rfl
  | cons input inputs ih => simp [InferredType.casts, ih]

@[simp] theorem inputs_casts (b : Bindings) (inputs : List InferredType) (ty : InferredType) :
    b.inputs (.casts inputs ty) = inputs ++ b.inputs ty := by
  induction inputs with
  | nil => rfl
  | cons input inputs ih => simp [InferredType.casts, ih]

@[simp] theorem ending_casts (b : Bindings) (inputs : List InferredType) (ty : InferredType) :
    b.ending (.casts inputs ty) = b.ending ty := by
  induction inputs with
  | nil => rfl
  | cons input inputs ih => simp [InferredType.casts, ih]

theorem isCast_resolve (b : Bindings) (ty : InferredType) :
    (b.resolve ty).isCast = !(b.inputs ty).isEmpty := by
  rw [← type_chain, inputs]
  cases b.chain ty <;> rfl

theorem inputs_eq_nil_of_isCast (h : (b.resolve ty).isCast = false) : b.inputs ty = [] := by
  simpa [isCast_resolve] using h

/-! ## Variables -/

theorem mem_roots_of_root (h : b.root ty = some x) : x ∈ b.roots ty := by
  unfold root at h
  unfold roots
  cases hchain : b.chain ty <;> simp_all [Chain.root, Chain.roots]

theorem root_of_resolve_eq_var (h : b.resolve ty = .var x) : b.root ty = some x := by
  rw [← type_chain] at h
  unfold root
  cases hchain : b.chain ty with
  | column root ty => simp [hchain, Chain.type] at h
  | oneOf root alternatives => simp [hchain, Chain.type] at h
  | unbound id => simpa [hchain, Chain.type, Chain.root] using h
  | cast root input result inner => simp [hchain, Chain.type] at h

theorem exists_root_var (b : Bindings) (id : VarId) : ∃ x, b.root (.var id) = some x := by
  unfold root
  cases h : b.get? id with
  | none => exact ⟨id, by rw [chain_var_none h, Chain.root]⟩
  | some bound =>
    rw [chain_var_some h]
    cases hroot : ((b.erase id).chain bound).root with
    | none => exact ⟨id, Chain.root_rootAt_of_root_eq_none hroot⟩
    | some x => exact ⟨x, by rw [Chain.rootAt_of_root_eq_some hroot, hroot]⟩

section Acyclic

variable (hb : b.Acyclic)
include hb

theorem Acyclic.ending_bound (h : b.get? id = some bound) :
    b.ending (.var id) = b.ending bound := by
  simp [ending, hb.chain_bound h]

theorem Acyclic.inputs_bound (h : b.get? id = some bound) :
    b.inputs (.var id) = b.inputs bound := by
  simp [inputs, hb.chain_bound h]

/-- The chain without its root is the chain of the type that it begins with. -/
theorem Acyclic.detach_chain (ty : InferredType) :
    (b.chain ty).detach = b.chain (b.resolve ty) := by
  induction ty using hb.induction with
  | column ty => simp [Chain.detach]
  | oneOf alternatives => simp [Chain.detach]
  | cast input result _ _ => simp [Chain.detach]
  | unbound id h => simp [h, Chain.detach]
  | bound id ty h ih => rw [hb.chain_bound h, Chain.detach_rootAt, ih, hb.resolve_bound h]

/-- What is behind a cast is the chain of its result. -/
theorem Acyclic.eq_chain_of_cast {root : Option VarId} {input result : InferredType}
    {inner : Chain} (h : b.chain ty = .cast root input result inner) :
    inner = b.chain result ∧ b.resolve ty = .cast input result := by
  have hdetach := hb.detach_chain ty
  have hresolve : b.resolve ty = .cast input result := by
    rw [← type_chain, h, Chain.type]
  rw [h, hresolve, chain_cast, Chain.detach] at hdetach
  simp only [Chain.cast.injEq, true_and] at hdetach
  exact ⟨hdetach, hresolve⟩

theorem Acyclic.get?_of_resolve_eq_var (h : b.resolve ty = .var x) : b.get? x = none := by
  induction ty using hb.induction with
  | column ty => simp at h
  | oneOf alternatives => simp at h
  | cast input result _ _ => simp at h
  | unbound id hid =>
    rw [resolve_var_none hid, InferredType.var.injEq] at h
    exact h ▸ hid
  | bound id ty hid ih => exact ih (hb.resolve_bound hid ▸ h)

/-- The first type that is no variable resolves to itself. -/
theorem Acyclic.resolve_resolve (ty : InferredType) :
    b.resolve (b.resolve ty) = b.resolve ty := by
  rw [← type_chain, ← hb.detach_chain, Chain.type_detach, type_chain]

theorem Acyclic.ending_resolve (ty : InferredType) : b.ending (b.resolve ty) = b.ending ty := by
  rw [ending, ← hb.detach_chain, ending]
  cases b.chain ty <;> rfl

/-- The variables behind the first type that is no variable. -/
theorem Acyclic.roots_resolve_subset (ty : InferredType) :
    b.roots (b.resolve ty) ⊆ b.roots ty := by
  rw [roots, ← hb.detach_chain, roots]
  cases b.chain ty with
  | column root ty => simp [Chain.detach, Chain.roots]
  | oneOf root alternatives => simp [Chain.detach, Chain.roots]
  | unbound id => simp [Chain.detach]
  | cast root input result inner => simp [Chain.detach, Chain.roots]

theorem Acyclic.inputs_resolve (ty : InferredType) : b.inputs (b.resolve ty) = b.inputs ty := by
  rw [inputs, ← hb.detach_chain, inputs]
  cases b.chain ty <;> rfl

/-- A variable that is bound to a variable has the chain of that variable. -/
theorem Acyclic.chain_var_link (h : b.get? x = some (.var y)) :
    b.chain (.var x) = b.chain (.var y) := by
  obtain ⟨z, hz⟩ := exists_root_var b y
  rw [hb.chain_bound h, Chain.rootAt_of_root_eq_some hz]

/-- What an input leads to, so does what has the input. -/
theorem Acyclic.leads_of_mem_inputs {input : InferredType}
    (hinput : input ∈ b.inputs ty) (h : b.Leads input x) : b.Leads ty x := by
  induction ty using hb.induction with
  | column ty => simp at hinput
  | oneOf alternatives => simp at hinput
  | cast left right _ ih =>
    rw [inputs_cast, List.mem_cons] at hinput
    rcases hinput with rfl | hinput
    · exact leads_cast.mpr (Or.inl h)
    · exact leads_cast.mpr (Or.inr (ih hinput))
  | unbound id hid => simp [hid] at hinput
  | bound id ty hid ih =>
    rw [hb.inputs_bound hid] at hinput
    exact (leads_bound hid).mpr (Or.inr (ih hinput))

/-- A type and its root have the same chain. -/
theorem Acyclic.chain_root (h : b.root ty = some x) : b.chain (.var x) = b.chain ty := by
  induction ty using hb.induction with
  | column ty => simp [root, Chain.root] at h
  | oneOf alternatives => simp [root, Chain.root] at h
  | cast input result _ _ => simp [root, Chain.root] at h
  | unbound id hid =>
    simp only [root, chain_var_none hid, Chain.root, Option.some.injEq] at h
    rw [h]
  | bound id ty hid ih =>
    rw [root, hb.chain_bound hid] at h
    cases hroot : b.root ty with
    | none =>
      rw [Chain.root_rootAt_of_root_eq_none hroot, Option.some.injEq] at h
      rw [h]
    | some y =>
      rw [Chain.rootAt_of_root_eq_some hroot] at h
      rw [hb.chain_bound hid, Chain.rootAt_of_root_eq_some hroot, ih h]

/-- A type leads to the variables through which it is read. -/
theorem Acyclic.leads_of_mem_roots (h : x ∈ b.roots ty) : b.Leads ty x := by
  induction ty using hb.induction with
  | column ty => simp [roots, Chain.roots] at h
  | oneOf alternatives => simp [roots, Chain.roots] at h
  | cast input result _ ih =>
    rw [roots_cast] at h
    exact leads_cast.mpr (Or.inr (ih h))
  | unbound id hid =>
    rw [roots, chain_var_none hid, Chain.roots, List.mem_singleton] at h
    exact h ▸ leads_var_self b id
  | bound id ty hid ih =>
    rw [leads_bound hid]
    rw [roots, hb.chain_bound hid] at h
    cases hroot : b.root ty with
    | none =>
      rw [Chain.roots_rootAt_of_root_eq_none hroot, List.mem_cons] at h
      exact h.imp Eq.symm ih
    | some y =>
      rw [Chain.rootAt_of_root_eq_some hroot] at h
      exact Or.inr (ih h)

theorem Acyclic.leads_root (h : b.root ty = some x) : b.Leads ty x :=
  hb.leads_of_mem_roots (mem_roots_of_root h)

/-- A root is the end of its chain of variables. -/
theorem Acyclic.root_not_bound_to_var (h : b.root ty = some x) : b.get? x ≠ some (.var y) := by
  induction ty using hb.induction with
  | column ty => simp [root, Chain.root] at h
  | oneOf alternatives => simp [root, Chain.root] at h
  | cast input result _ _ => simp [root, Chain.root] at h
  | unbound id hid =>
    simp only [root, chain_var_none hid, Chain.root, Option.some.injEq] at h
    simp [← h, hid]
  | bound id ty hid ih =>
    rw [root, hb.chain_bound hid] at h
    cases hroot : b.root ty with
    | none =>
      rw [Chain.root_rootAt_of_root_eq_none hroot, Option.some.injEq] at h
      rw [← h, hid]
      rintro ⟨⟩
      -- a variable always has a root
      obtain ⟨z, hz⟩ := exists_root_var b y
      cases hroot.symm.trans hz
    | some z =>
      rw [Chain.rootAt_of_root_eq_some hroot] at h
      exact ih h

/-- The root of a type is bound to what the type comes to, unless it is without binding. -/
theorem Acyclic.get?_root (h : b.root ty = some x) :
    b.resolve ty = .var x ∨ b.get? x = some (b.resolve ty) := by
  have hresolve : b.resolve ty = b.resolve (.var x) := by
    rw [← type_chain, ← type_chain, hb.chain_root h]
  rw [hresolve]
  cases hx : b.get? x with
  | none => exact Or.inl (resolve_var_none hx)
  | some bound =>
    rw [hb.resolve_bound hx]
    cases bound with
    | column ty => exact Or.inr (by rw [resolve_column])
    | oneOf alternatives => exact Or.inr (by rw [resolve_oneOf])
    | cast input result => exact Or.inr (by rw [resolve_cast])
    | var y => exact (hb.root_not_bound_to_var h hx).elim

end Acyclic

end Bindings

end QueryTyping
