import Mathlib.Data.FinEnum
import Mathlib.Logic.Relation
import QueryTyping.Inference.Chain

/-!
# Bindings without cycles

A bound variable refers to the variables that stand in its type. Bindings are acyclic if no
variable leads back to itself this way.

The walks over bindings take out each binding that they follow. Where there is no cycle this makes
no difference, and what is read from a bound variable is read from its type:

* `chain_congr`, `occurs_congr`, `concrete_congr` — a walk depends only on the bindings of the
  variables that it can reach
* `Acyclic.chain_bound`, `Acyclic.occurs_bound`, `Acyclic.concrete_bound` — a bound variable is
  read like its type, with no binding taken out
* `Acyclic.induction` — induction over all that a type leads to
* `Acyclic.occurs_iff` — `occurs` decides reachability
* `Acyclic.insert` — binding a variable to a type that does not lead to it makes no cycle
-/

namespace QueryTyping

namespace Bindings

open Relation

variable {b b' : Bindings} {id x y : VarId} {ty bound left right : InferredType}

/-! ## References -/

/-- `x` is bound to a type in which `y` stands. -/
def Refers (b : Bindings) (x y : VarId) : Prop :=
  ∃ bound, b.get? x = some bound ∧ bound.mentions y = true

/-- No variable leads back to itself. -/
def Acyclic (b : Bindings) : Prop := ∀ id, ¬TransGen b.Refers id id

/-- The variable stands in the type, or is reached from one that does. -/
def Leads (b : Bindings) (ty : InferredType) (id : VarId) : Prop :=
  ∃ v, ty.mentions v = true ∧ ReflTransGen b.Refers v id

@[simp] theorem not_leads_column (ty : ColumnType) : ¬b.Leads (.column ty) id := by
  rintro ⟨v, hv, -⟩
  simp [InferredType.mentions] at hv

@[simp] theorem not_leads_oneOf (alternatives : List ColumnType) :
    ¬b.Leads (.oneOf alternatives) id := by
  rintro ⟨v, hv, -⟩
  simp [InferredType.mentions] at hv

theorem leads_cast : b.Leads (.cast left right) id ↔ b.Leads left id ∨ b.Leads right id := by
  constructor
  · rintro ⟨v, hv, hpath⟩
    simp only [InferredType.mentions, Bool.or_eq_true] at hv
    rcases hv with hv | hv
    · exact Or.inl ⟨v, hv, hpath⟩
    · exact Or.inr ⟨v, hv, hpath⟩
  · rintro (⟨v, hv, hpath⟩ | ⟨v, hv, hpath⟩)
    · exact ⟨v, by simp [InferredType.mentions, hv], hpath⟩
    · exact ⟨v, by simp [InferredType.mentions, hv], hpath⟩

theorem leads_var : b.Leads (.var x) y ↔ ReflTransGen b.Refers x y := by
  constructor
  · rintro ⟨v, hv, hpath⟩
    simp only [InferredType.mentions, beq_iff_eq] at hv
    exact hv ▸ hpath
  · exact fun hpath => ⟨x, by simp [InferredType.mentions], hpath⟩

@[simp] theorem leads_var_self (b : Bindings) (x : VarId) : b.Leads (.var x) x :=
  leads_var.mpr ReflTransGen.refl

theorem leads_bound (h : b.get? x = some bound) :
    b.Leads (.var x) y ↔ x = y ∨ b.Leads bound y := by
  rw [leads_var, ReflTransGen.cases_head_iff]
  constructor
  · rintro (rfl | ⟨v, ⟨bound', h', hv⟩, hpath⟩)
    · exact Or.inl rfl
    · rw [h, Option.some.injEq] at h'
      exact Or.inr ⟨v, h' ▸ hv, hpath⟩
  · rintro (rfl | ⟨v, hv, hpath⟩)
    · exact Or.inl rfl
    · exact Or.inr ⟨v, ⟨bound, h, hv⟩, hpath⟩

theorem leads_unbound (h : b.get? x = none) : b.Leads (.var x) y ↔ x = y := by
  rw [leads_var, ReflTransGen.cases_head_iff]
  constructor
  · rintro (rfl | ⟨v, ⟨bound, h', -⟩, -⟩)
    · rfl
    · simp [h] at h'
  · exact Or.inl

theorem Leads.trans (h : b.Leads ty x) (hxy : b.Leads (.var x) y) : b.Leads ty y := by
  obtain ⟨v, hv, hpath⟩ := h
  exact ⟨v, hv, hpath.trans (leads_var.mp hxy)⟩

theorem Refers.of_erase (h : (b.erase id).Refers x y) : b.Refers x y := by
  obtain ⟨bound, hx, hy⟩ := h
  rw [get?_erase] at hx
  split at hx
  · simp at hx
  · exact ⟨bound, hx, hy⟩

theorem Leads.of_erase (h : (b.erase id).Leads ty y) : b.Leads ty y := by
  obtain ⟨v, hv, hpath⟩ := h
  exact ⟨v, hv, ReflTransGen.mono (fun _ _ hstep => hstep.of_erase) v y hpath⟩

/-! ## One step of a walk -/

theorem chain_var_some (h : b.get? id = some bound) :
    b.chain (.var id) = ((b.erase id).chain bound).rootAt id := by
  rw [chain]
  split
  · next bound' heq =>
    obtain rfl : bound' = bound := by simpa [h] using heq.symm
    rfl
  · next heq => simp [h] at heq

@[simp] theorem chain_var_none (h : b.get? id = none) : b.chain (.var id) = .unbound id := by
  rw [chain]
  split
  · next heq => simp [h] at heq
  · rfl

theorem occurs_var_some (h : b.get? x = some bound) :
    b.occurs id (.var x) = (x == id || (b.erase x).occurs id bound) := by
  rw [occurs]
  split
  · next bound' heq =>
    obtain rfl : bound' = bound := by simpa [h] using heq.symm
    rfl
  · next heq => simp [h] at heq

@[simp] theorem occurs_var_none (h : b.get? x = none) : b.occurs id (.var x) = (x == id) := by
  rw [occurs]
  split
  · next heq => simp [h] at heq
  · simp

@[simp] theorem occurs_cast :
    b.occurs id (.cast left right) = (b.occurs id left || b.occurs id right) := by
  rw [occurs]

theorem concrete_var_some (h : b.get? id = some bound) :
    b.concrete (.var id) = (b.erase id).concrete bound := by
  rw [concrete]
  split
  · next bound' heq =>
    obtain rfl : bound' = bound := by simpa [h] using heq.symm
    rfl
  · next heq => simp [h] at heq

@[simp] theorem concrete_var_none (h : b.get? id = none) : b.concrete (.var id) = .unknown := by
  rw [concrete]
  split
  · next heq => simp [h] at heq
  · rfl

/-! ## What a walk depends on -/

/-- The two bindings treat alike whatever the type leads to. -/
def AgreeFrom (b b' : Bindings) (ty : InferredType) : Prop :=
  ∀ v, b.Leads ty v → b'.get? v = b.get? v

theorem AgreeFrom.get?_eq (h : AgreeFrom b b' (.var id)) : b'.get? id = b.get? id :=
  h id (leads_var_self b id)

theorem AgreeFrom.of_cast (h : AgreeFrom b b' (.cast left right)) :
    AgreeFrom b b' left ∧ AgreeFrom b b' right :=
  ⟨fun v hv => h v (leads_cast.mpr (Or.inl hv)), fun v hv => h v (leads_cast.mpr (Or.inr hv))⟩

/-- The agreement goes on behind a bound variable, also once its binding is taken out. -/
theorem AgreeFrom.erase (h : AgreeFrom b b' (.var id)) (hid : b.get? id = some bound) :
    AgreeFrom (b.erase id) (b'.erase id) bound := by
  intro v hv
  rw [get?_erase, get?_erase, h v ((leads_bound hid).mpr (Or.inr hv.of_erase))]

theorem agreeFrom_erase (h : ¬b.Leads ty id) : AgreeFrom b (b.erase id) ty := by
  intro v hv
  rw [get?_erase, if_neg]
  rintro rfl
  exact h hv

theorem agreeFrom_insert (h : ¬b.Leads ty id) : AgreeFrom b (b.insert id bound) ty := by
  intro v hv
  rw [get?_insert, if_neg]
  rintro rfl
  exact h hv

theorem chain_congr (h : AgreeFrom b b' ty) : b'.chain ty = b.chain ty := by
  fun_induction chain b ty generalizing b' with
  | case1 => rw [chain]
  | case2 => rw [chain]
  | case3 b input result ih => rw [chain, ih h.of_cast.2]
  | case4 b id bound hid ih =>
    rw [chain_var_some (h.get?_eq.trans hid), ih (h.erase hid)]
  | case5 b id hid => rw [chain_var_none (h.get?_eq.trans hid)]

theorem resolve_congr (h : AgreeFrom b b' ty) : b'.resolve ty = b.resolve ty := by
  rw [← type_chain, ← type_chain, chain_congr h]

theorem occurs_congr (h : AgreeFrom b b' ty) : b'.occurs id ty = b.occurs id ty := by
  fun_induction occurs b id ty generalizing b' with
  | case1 b other ih =>
    cases hother : b.get? other with
    | none => simp [h.get?_eq.trans hother]
    | some bound =>
      rw [occurs_var_some (h.get?_eq.trans hother), ih bound hother (h.erase hother)]
  | case2 b input result ihinput ihresult =>
    rw [occurs_cast, ihinput h.of_cast.1, ihresult h.of_cast.2]
  | case3 => rw [occurs]
  | case4 => rw [occurs]

theorem concrete_congr (h : AgreeFrom b b' ty) : b'.concrete ty = b.concrete ty := by
  fun_induction concrete b ty generalizing b' with
  | case1 => rw [concrete]
  | case2 => rw [concrete]
  | case3 b input result inner inherited ihresult =>
    rename_i ihinput
    rw [concrete, ihinput h.of_cast.1, ihresult h.of_cast.2, resolve_congr h.of_cast.2]
  | case4 b id bound hid ih =>
    rw [concrete_var_some (h.get?_eq.trans hid), ih (h.erase hid)]
  | case5 b id hid => simp [h.get?_eq.trans hid]

/-! ## Bound variables are read like their types -/

theorem Acyclic.not_leads_bound (hb : b.Acyclic) (h : b.get? id = some bound) :
    ¬b.Leads bound id := by
  rintro ⟨v, hv, hpath⟩
  exact hb id (TransGen.head' ⟨bound, h, hv⟩ hpath)

theorem Acyclic.chain_bound (hb : b.Acyclic) (h : b.get? id = some bound) :
    b.chain (.var id) = (b.chain bound).rootAt id := by
  rw [chain_var_some h, chain_congr (agreeFrom_erase (hb.not_leads_bound h))]

theorem Acyclic.resolve_bound (hb : b.Acyclic) (h : b.get? id = some bound) :
    b.resolve (.var id) = b.resolve bound := by
  rw [← type_chain, hb.chain_bound h, Chain.type_rootAt, type_chain]

theorem Acyclic.occurs_bound (hb : b.Acyclic) (h : b.get? x = some bound) :
    b.occurs id (.var x) = (x == id || b.occurs id bound) := by
  rw [occurs_var_some h, occurs_congr (agreeFrom_erase (hb.not_leads_bound h))]

theorem Acyclic.concrete_bound (hb : b.Acyclic) (h : b.get? id = some bound) :
    b.concrete (.var id) = b.concrete bound := by
  rw [concrete_var_some h, concrete_congr (agreeFrom_erase (hb.not_leads_bound h))]

/-! ## Induction -/

/-- Where no variable leads back to itself there is no endless path of references. -/
theorem Acyclic.wellFounded (hb : b.Acyclic) : WellFounded fun x y => b.Refers y x := by
  have hirrefl : Std.Irrefl fun x y => TransGen b.Refers y x := ⟨hb⟩
  have htrans : IsTrans VarId fun x y => TransGen b.Refers y x := ⟨fun _ _ _ h h' => h'.trans h⟩
  exact Subrelation.wf (fun h => TransGen.single h)
    (Finite.wellFounded_of_trans_of_irrefl fun x y => TransGen b.Refers y x)

/-- To show something of every type, show it of a cast from its two parts and of a bound variable
from its type. -/
@[elab_as_elim]
theorem Acyclic.induction (hb : b.Acyclic) {motive : InferredType → Prop}
    (column : ∀ ty, motive (.column ty))
    (oneOf : ∀ alternatives, motive (.oneOf alternatives))
    (cast : ∀ input result, motive input → motive result → motive (.cast input result))
    (unbound : ∀ id, b.get? id = none → motive (.var id))
    (bound : ∀ id bound, b.get? id = some bound → motive bound → motive (.var id))
    (ty : InferredType) : motive ty := by
  -- a type has the property if the variables that stand in it have it
  have of_mentions : ∀ ty : InferredType,
      (∀ v, ty.mentions v = true → motive (.var v)) → motive ty := by
    intro ty
    induction ty with
    | column ty => exact fun _ => column ty
    | oneOf alternatives => exact fun _ => oneOf alternatives
    | cast input result ihinput ihresult =>
      intro h
      refine cast input result (ihinput fun v hv => h v ?_) (ihresult fun v hv => h v ?_)
      · simp [InferredType.mentions, hv]
      · simp [InferredType.mentions, hv]
    | var id => exact fun h => h id (by simp [InferredType.mentions])
  have of_var : ∀ id, motive (.var id) := by
    intro id
    induction id using hb.wellFounded.induction with
    | _ id ih =>
      cases h : b.get? id with
      | none => exact unbound id h
      | some ty => exact bound id ty h (of_mentions ty fun v hv => ih v ⟨ty, h, hv⟩)
  exact of_mentions ty fun v _ => of_var v

/-- `occurs` decides reachability. -/
theorem Acyclic.occurs_iff (hb : b.Acyclic) : b.occurs id ty = true ↔ b.Leads ty id := by
  induction ty using hb.induction with
  | column ty => simp [occurs]
  | oneOf alternatives => simp [occurs]
  | cast input result ihinput ihresult => simp [leads_cast, ihinput, ihresult]
  | unbound x h => simp [h, leads_unbound h]
  | bound x ty h ih => simp [hb.occurs_bound h, leads_bound h, ih]

theorem Acyclic.not_occurs_iff (hb : b.Acyclic) : b.occurs id ty = false ↔ ¬b.Leads ty id := by
  rw [← hb.occurs_iff, Bool.not_eq_true]

/-! ## Binding a variable -/

theorem acyclic_empty : empty.Acyclic := by
  intro id h
  obtain ⟨_, ⟨bound, hbound, -⟩, -⟩ := TransGen.head'_iff.mp h
  simp at hbound

theorem refers_insert_self : (b.insert id ty).Refers id y ↔ ty.mentions y = true := by
  simp [Refers, get?_insert]

theorem refers_insert_of_ne (h : x ≠ id) : (b.insert id ty).Refers x y ↔ b.Refers x y := by
  simp [Refers, get?_insert, h]

/-- What a variable leads to after it was bound, its type led to before. -/
theorem leads_of_transGen_insert (h : ¬b.Leads ty id)
    (hpath : TransGen (b.insert id ty).Refers id y) : b.Leads ty y := by
  induction hpath with
  | single hstep => exact ⟨_, refers_insert_self.mp hstep, ReflTransGen.refl⟩
  | @tail v w _ hstep ih =>
    obtain ⟨u, hu, hpath⟩ := ih
    have hv : v ≠ id := by
      rintro rfl
      exact h ⟨u, hu, hpath⟩
    exact ⟨u, hu, hpath.tail ((refers_insert_of_ne hv).mp hstep)⟩

/-- A path after a variable was bound is one from before, or comes through the variable. -/
theorem transGen_insert_cases (hpath : TransGen (b.insert id ty).Refers x y) :
    TransGen b.Refers x y ∨
      (ReflTransGen (b.insert id ty).Refers x id ∧ TransGen (b.insert id ty).Refers id y) := by
  induction hpath with
  | @single v hstep =>
    by_cases hx : x = id
    · subst hx
      exact Or.inr ⟨ReflTransGen.refl, TransGen.single hstep⟩
    · exact Or.inl (TransGen.single ((refers_insert_of_ne hx).mp hstep))
  | @tail v w hpath hstep ih =>
    by_cases hv : v = id
    · subst hv
      exact Or.inr ⟨hpath.to_reflTransGen, TransGen.single hstep⟩
    · rcases ih with hold | ⟨hto, hfrom⟩
      · exact Or.inl (hold.tail ((refers_insert_of_ne hv).mp hstep))
      · exact Or.inr ⟨hto, hfrom.tail hstep⟩

/-- Binding a variable to a type that does not lead to it makes no cycle. -/
theorem Acyclic.insert (hb : b.Acyclic) (h : ¬b.Leads ty id) : (b.insert id ty).Acyclic := by
  intro x hcycle
  rcases transGen_insert_cases hcycle with hold | ⟨hto, hfrom⟩
  · exact hb x hold
  · exact h (leads_of_transGen_insert h (hfrom.trans_left hto))

/-- A root is written unless the type leads back to it. -/
theorem Acyclic.assignRoot_cases (hb : b.Acyclic) (root : Option VarId) (ty : InferredType) :
    b.assignRoot root ty = b ∨
      ∃ x, root = some x ∧ ¬b.Leads ty x ∧ b.assignRoot root ty = b.insert x ty := by
  cases root with
  | none => exact Or.inl rfl
  | some x =>
    rw [Bindings.assignRoot, Bindings.assign]
    split
    · exact Or.inl rfl
    · next h => exact Or.inr ⟨x, rfl, fun hleads => h (hb.occurs_iff.mpr hleads), rfl⟩

theorem Acyclic.assignRoot (hb : b.Acyclic) (root : Option VarId) :
    (b.assignRoot root ty).Acyclic := by
  rcases hb.assignRoot_cases root ty with hkept | ⟨x, -, hleads, hwritten⟩
  · rw [hkept]
    exact hb
  · rw [hwritten]
    exact hb.insert hleads

end Bindings

end QueryTyping
