import QueryTyping.Proofs.Inference.Reading

/-!
# What a type comes down to

The column type of a type is read off its chain: the core type is that of the ending, and so is the
nullability if there is no cast. Otherwise the type is null if one of the inputs of the casts is,
whatever the ending says.
-/

namespace QueryTyping

namespace Bindings

variable {b : Bindings} {ty : InferredType}

@[simp] theorem concrete_column (b : Bindings) (ty : ColumnType) :
    b.concrete (.column ty) = ty := by
  rw [concrete]

@[simp] theorem concrete_oneOf (b : Bindings) (alternatives : List ColumnType) :
    b.concrete (.oneOf alternatives) = alternatives.head?.getD .unknown := by
  rw [concrete]

theorem concrete_cast (b : Bindings) (input result : InferredType) :
    b.concrete (.cast input result) = (b.concrete result).withNullable
      ((b.concrete input).nullable ||
        (b.concrete result).nullable && !(b.inputs result).isEmpty) := by
  rw [concrete, isCast_resolve]

theorem Acyclic.concrete_resolve (hb : b.Acyclic) (ty : InferredType) :
    b.concrete (b.resolve ty) = b.concrete ty := by
  induction ty using hb.induction with
  | column ty => rw [resolve_column]
  | oneOf alternatives => rw [resolve_oneOf]
  | cast input result _ _ => rw [resolve_cast]
  | unbound id h => rw [resolve_var_none h]
  | bound id ty h ih => rw [hb.resolve_bound h, hb.concrete_bound h, ih]

/-- Types with the same chain come down to the same column type. -/
theorem Acyclic.concrete_eq_of_chain_eq (hb : b.Acyclic) {ty' : InferredType}
    (h : b.chain ty = b.chain ty') : b.concrete ty = b.concrete ty' := by
  rw [← hb.concrete_resolve ty, ← hb.concrete_resolve ty', ← type_chain, h, type_chain]

/-- The core type stands at the end. -/
theorem Acyclic.concrete_core (hb : b.Acyclic) (ty : InferredType) :
    (b.concrete ty).core = (b.concrete (b.ending ty)).core := by
  induction ty using hb.induction with
  | column ty => simp
  | oneOf alternatives => simp
  | cast input result _ ih =>
    rw [concrete_cast, ending_cast]
    exact ih
  | unbound id h => rw [ending_var_none h]
  | bound id ty h ih => rw [hb.concrete_bound h, hb.ending_bound h, ih]

/-- A cast is null if one of the inputs is, and the rest of its chain says nothing about it. -/
theorem Acyclic.concrete_nullable (hb : b.Acyclic) (ty : InferredType) :
    (b.concrete ty).nullable =
      if b.inputs ty = [] then (b.concrete (b.ending ty)).nullable
      else (b.inputs ty).any fun input => (b.concrete input).nullable := by
  induction ty using hb.induction with
  | column ty => simp
  | oneOf alternatives => simp
  | cast input result _ ih =>
    rw [concrete_cast, inputs_cast, ending_cast, if_neg (List.cons_ne_nil _ _), List.any_cons, ih]
    -- behind the last cast only the core type counts
    by_cases hnil : b.inputs result = []
    · simp [hnil, ColumnType.withNullable]
    · have hcasts : (b.inputs result).isEmpty = false := List.isEmpty_eq_false_iff.mpr hnil
      simp [hnil, hcasts, ColumnType.withNullable]
  | unbound id h => simp [h]
  | bound id ty h ih => rw [hb.concrete_bound h, hb.ending_bound h, hb.inputs_bound h, ih]

end Bindings

end QueryTyping
