import QueryTyping.Proofs.Inference.Links

/-!
# Casts of the shape that queries have

The result of a cast in a query is a declared type, never a variable. Types of this shape are kept
by unifications (`Combines.castShaped`): a cast is put back around what was combined under it, and
that is a variable only if both sides were. So all types that are bound in a session have this shape
if the types that were unified had it (`Session.ReachedByCasts.acyclic_and_castShaped`). Which other
properties of types are kept in this way is said by `Combines.allBound`.
-/

namespace QueryTyping

namespace InferredType

/-- No cast in the type has a variable as its result. -/
def CastShaped : InferredType → Prop
  | cast input result => input.CastShaped ∧ result.CastShaped ∧ ∀ x, result ≠ var x
  | _ => True

/-- No alternatives stand in the type. -/
def NoOneOf : InferredType → Prop
  | cast input result => input.NoOneOf ∧ result.NoOneOf
  | oneOf _ => False
  | _ => True

/-- The types that queries are given: variables, column types, alternatives, and casts of such types
to declared types. -/
inductive Given : InferredType → Prop where
  | var (id : VarId) : Given (var id)
  | column (ty : ColumnType) : Given (column ty)
  | oneOf (alternatives : List ColumnType) : Given (oneOf alternatives)
  | ofCast (name : TypeName) {input : InferredType} (h : Given input) : Given (ofCast name input)

theorem Given.castShaped {ty : InferredType} (h : Given ty) : ty.CastShaped := by
  induction h with
  | var id => trivial
  | column ty => trivial
  | oneOf alternatives => trivial
  | @ofCast name input _ ih =>
    cases input with
    | column ty => trivial
    | oneOf alternatives => trivial
    | cast input result => exact ⟨ih, trivial, fun x h => by cases h⟩
    | var id => exact ⟨ih, trivial, fun x h => by cases h⟩

theorem IsEnd.castShaped {ty : InferredType} (h : ty.IsEnd) : ty.CastShaped := by
  rcases h with ⟨column, rfl⟩ | ⟨alternatives, rfl⟩
  · trivial
  · trivial

/-- A type of this shape is a variable, or has casts around a type that is neither variable nor
cast. -/
theorem CastShaped.eq_casts {ty : InferredType} (h : ty.CastShaped) (hvar : ∀ x, ty ≠ var x) :
    ∃ inputs e, e.IsEnd ∧ ty = casts inputs e := by
  induction ty with
  | column ty => exact ⟨[], column ty, Or.inl ⟨ty, rfl⟩, rfl⟩
  | oneOf alternatives => exact ⟨[], oneOf alternatives, Or.inr ⟨alternatives, rfl⟩, rfl⟩
  | var id => exact (hvar id rfl).elim
  | cast input result _ ih =>
    obtain ⟨-, hresult, hnotVar⟩ := h
    obtain ⟨inputs, e, he, rfl⟩ := ih hresult hnotVar
    exact ⟨input :: inputs, e, he, rfl⟩

end InferredType

namespace Bindings

open InferredType (CastShaped NoOneOf)

variable {b b' : Bindings} {l r c t : InferredType} {P : InferredType → Prop}

/-- All types that variables are bound to have the property. -/
def AllBound (b : Bindings) (P : InferredType → Prop) : Prop := ∀ v ty, b.get? v = some ty → P ty

theorem allBound_empty (P : InferredType → Prop) : empty.AllBound P := by
  intro v ty hv
  cases hv

theorem AllBound.insert (h : b.AllBound P) (x : VarId) (hc : P c) : (b.insert x c).AllBound P := by
  intro v ty hv
  rw [get?_insert] at hv
  split at hv
  · exact Option.some.inj hv ▸ hc
  · exact h v ty hv

theorem AllBound.assignRoot (h : b.AllBound P) (root : Option VarId) (hc : P c) :
    (b.assignRoot root c).AllBound P := by
  cases root with
  | none => exact h
  | some x =>
    rw [Bindings.assignRoot, assign]
    split
    · exact h
    · exact h.insert x hc

/-- What a type comes to is the type itself or bound to a variable. -/
theorem AllBound.resolve (hb : b.Acyclic) (h : b.AllBound P) (ht : P t) : P (b.resolve t) := by
  induction t using hb.induction with
  | column ty => rwa [resolve_column]
  | oneOf alternatives => rwa [resolve_oneOf]
  | cast input result _ _ => rwa [resolve_cast]
  | unbound id hid => rwa [resolve_var_none hid]
  | bound id ty hid ih =>
    rw [hb.resolve_bound hid]
    exact ih (h id ty hid)

/-- Without alternatives in the type and in the bindings there are none at the end. -/
theorem AllBound.noOneOf_ending (hb : b.Acyclic) (h : b.AllBound NoOneOf) (ht : t.NoOneOf) :
    (b.ending t).NoOneOf := by
  induction t using hb.induction with
  | column ty => rwa [ending_column]
  | oneOf alternatives => exact ht.elim
  | cast input result _ ih =>
    rw [ending_cast]
    exact ih ht.2
  | unbound id hid => rwa [ending_var_none hid]
  | bound id ty hid ih =>
    rw [hb.ending_bound hid]
    exact ih (h id ty hid)

/-- A property of types is kept if it is kept by meets and passes from a cast to its result, and
back to the cast around what the result was combined to. -/
theorem Combines.allBound (hb : b.Acyclic) (h : Combines b l r c b')
    (hmeet : ∀ l r m, P l → P r → l.meet r = some m → P m)
    (hopen : ∀ input result, P (.cast input result) → P result)
    (hclose : ∀ input result r c b₁, P (.cast input result) → P r →
      (∀ y, b.resolve r ≠ .var y) → Combines b result r c b₁ → P c → P (.cast input c))
    (hbound : b.AllBound P) (hl : P l) (hr : P r) : P c ∧ b'.AllBound P := by
  induction h with
  | @same l r x hvar _ => exact ⟨hvar ▸ hbound.resolve hb hl, hbound⟩
  | bindLeft _ _ =>
    have hc := hbound.resolve hb hr
    exact ⟨hc, hbound.insert _ hc⟩
  | bindRight _ _ =>
    have hc := hbound.resolve hb hl
    exact ⟨hc, hbound.insert _ hc⟩
  | ends h => exact ⟨hmeet _ _ _ (hbound.resolve hb hl) (hbound.resolve hb hr) h, hbound⟩
  | @openLeft l r input result c b₁ hcast hplain h ih =>
    have hopened : P (.cast input result) := hcast ▸ hbound.resolve hb hl
    have hother := hbound.resolve hb hr
    obtain ⟨hc, hb₁⟩ := ih (hopen input result hopened) hother
    refine ⟨hclose input result _ c b₁ hopened hother ?_ h hc, hb₁.assignRoot _ hc⟩
    rwa [hb.resolve_resolve]
  | @openRight l r input result c b₁ hplain hcast h ih =>
    have hopened : P (.cast input result) := hcast ▸ hbound.resolve hb hr
    have hother := hbound.resolve hb hl
    obtain ⟨hc, hb₁⟩ := ih (hopen input result hopened) hother
    refine ⟨hclose input result _ c b₁ hopened hother ?_ h hc, hb₁.assignRoot _ hc⟩
    rw [hb.resolve_resolve]
    exact hplain.1

/-- The cast that was opened is put back around a type that is no variable. -/
theorem Combines.castShaped (hb : b.Acyclic) (h : Combines b l r c b')
    (hshape : b.AllBound CastShaped) (hl : l.CastShaped) (hr : r.CastShaped) :
    c.CastShaped ∧ b'.AllBound CastShaped := by
  refine h.allBound hb ?_ ?_ ?_ hshape hl hr
  · exact fun _ _ _ _ _ hmeet => (InferredType.isEnd_of_meet hmeet).castShaped
  · exact fun _ _ hcast => hcast.2.1
  · intro input result r c b₁ hcast _ hplain hcombines hc
    refine ⟨hcast.1, hc, ?_⟩
    rintro x rfl
    obtain ⟨-, y, hy⟩ := hcombines.resolve_eq_var
    exact hplain y hy

theorem AllBound.unify (hb : b.Acyclic) (hshape : b.AllBound CastShaped) (hl : l.CastShaped)
    (hr : r.CastShaped) (h : b.unify l r = (.ok c, b')) : b'.AllBound CastShaped := by
  obtain ⟨b₁, hcombines, rfl⟩ := hb.unify_ok h
  obtain ⟨hc, hb₁⟩ := hcombines.castShaped hb hshape hl hr
  exact (hb₁.assignRoot _ hc).assignRoot _ hc

end Bindings

namespace Session

open InferredType (CastShaped)

variable {s : Session}

/-- Where unifications keep a property of types, all types that are bound after a run have it if the
types that were unified had it. -/
theorem run_allBound {P : InferredType → Prop} {supply : Supply} {calls : List Call}
    (hkeep : ∀ {b b' : Bindings} {l r c : InferredType}, b.Acyclic → b.AllBound P → P l → P r →
      b.unify l r = (.ok c, b') → b'.AllBound P)
    (hcalls : ∀ l r, .unify l r ∈ calls → P l ∧ P r) :
    (run { supply } calls).bindings.Acyclic ∧ (run { supply } calls).bindings.AllBound P := by
  refine run_induction_of_mem (P := (·.AllBound P)) (s := { supply })
    (fun b l r c b' hmem hb hbound hunify => ?_) Bindings.acyclic_empty (Bindings.allBound_empty P)
  obtain ⟨hl, hr⟩ := hcalls l r hmem
  exact hkeep hb hbound hl hr hunify

/-- The session is reached, and only types of this shape were unified. -/
def ReachedByCasts (s : Session) : Prop :=
  ∃ supply calls, (∀ l r, .unify l r ∈ calls → l.CastShaped ∧ r.CastShaped) ∧
    s = run { supply } calls

theorem ReachedByCasts.acyclic_and_castShaped (h : s.ReachedByCasts) :
    s.bindings.Acyclic ∧ s.bindings.AllBound CastShaped := by
  obtain ⟨supply, calls, hcalls, rfl⟩ := h
  exact run_allBound Bindings.AllBound.unify hcalls

end Session

end QueryTyping
