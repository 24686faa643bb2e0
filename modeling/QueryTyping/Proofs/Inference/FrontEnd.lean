import QueryTyping.Proofs.Inference.CastShape
import QueryTyping.Proofs.Inference.Outcomes

/-!
# Types that a front end builds

A front end makes types from constants, column types, the variables that it is handed, casts of such
types to declared types, and results of earlier unifications. It never makes up alternatives or the
result of a cast. So wherever alternatives turn up they are those of an integer constant, an integer
or a float, and whatever is known about the result of a cast, it is of a core type that can be
declared: the types are well-formed (`InferredType.WellFormed`), in the bindings as well as where
they are handed out.

Hence it makes no difference whether a type is cast before or after something is learned about it
(`FrontEnd.types_wellFormed`). A cast of alternatives is null if one of them is, and a cast of a
variable that stands for them is null if the first of them is, which is the same if all agree.
-/

namespace QueryTyping

/-- A core type that declared types stand for. -/
def CoreType.IsAffinity (core : CoreType) : Prop := core ∈ [integer, float, string, blob]

theorem TypeName.isAffinity_affinity (name : TypeName) : name.affinity.IsAffinity := by
  have hrules : ∀ rule ∈ affinityRules, rule.2.IsAffinity := by
    unfold CoreType.IsAffinity
    decide
  unfold affinity
  dsimp only
  split
  · next rule hrule => exact hrules rule (List.mem_of_find?_eq_some hrule)
  · simp [CoreType.IsAffinity]

/-- Such a core type is not changed by a meet. -/
theorem CoreType.IsAffinity.eq_of_meet {core other meet : CoreType} (h : core.IsAffinity)
    (hmeet : core.meet other = some meet) : meet = core := by
  rcases (CoreType.eq_of_meet hmeet).1 with heq | rfl
  · exact heq
  · simp [IsAffinity] at h

namespace InferredType

/-- A column type of a core type that can be declared, or casts with such a result. -/
def IsDeclared : InferredType → Prop
  | column ty => ty.core.IsAffinity
  | oneOf _ => False
  | cast _ result => result.IsDeclared
  | var _ => False

/-- The alternatives of an integer constant, in the order of preference. -/
def integerAlternatives (nullable : Bool) : List ColumnType :=
  [⟨nullable, .integer⟩, ⟨nullable, .float⟩]

/-- All alternatives in the type are those of an integer constant, all null or all not null, and the
results of all casts are declared. -/
def WellFormed : InferredType → Prop
  | column _ => True
  | oneOf alternatives => ∃ nullable, alternatives = integerAlternatives nullable
  | cast input result => input.WellFormed ∧ result.WellFormed ∧ result.IsDeclared
  | var _ => True

theorem IsDeclared.resolve_eq {ty : InferredType} (h : ty.IsDeclared) (b : Bindings) :
    b.resolve ty = ty := by
  cases ty with
  | column ty => rw [Bindings.resolve_column]
  | oneOf alternatives => exact h.elim
  | cast input result => rw [Bindings.resolve_cast]
  | var id => exact h.elim

/-! ## What builds types -/

theorem wellFormed_ofLiteral (literal : Literal) : (ofLiteral literal).WellFormed := by
  cases literal with
  | integer value => exact ⟨false, rfl⟩
  | null => trivial
  | currentTime => trivial
  | currentDate => trivial
  | currentTimestamp => trivial
  | string value => trivial
  | blob value => trivial
  | float value => trivial

theorem WellFormed.ofCast {input : InferredType} (h : input.WellFormed) (name : TypeName) :
    (ofCast name input).WellFormed := by
  cases input with
  | column ty => trivial
  | oneOf alternatives => trivial
  | cast inner result => exact ⟨h, trivial, name.isAffinity_affinity⟩
  | var id => exact ⟨h, trivial, name.isAffinity_affinity⟩

/-! ## Meets -/

theorem narrow_any (nullable nullable' : Bool) :
    narrow (integerAlternatives nullable) [⟨nullable', .any⟩] =
      some (oneOf (integerAlternatives (nullable || nullable'))) := by
  cases nullable <;> cases nullable' <;> rfl

theorem narrow_integerAlternatives (nullable nullable' : Bool) :
    narrow (integerAlternatives nullable) (integerAlternatives nullable') =
      some (oneOf (integerAlternatives (nullable || nullable'))) := by
  cases nullable <;> cases nullable' <;> rfl

/-- A column type leaves one of the alternatives, or both if it says nothing. -/
theorem WellFormed.of_narrow {nullable : Bool} {ty : ColumnType} {m : InferredType}
    (h : narrow (integerAlternatives nullable) [ty] = some m) :
    m.WellFormed ∧ (ty.core.IsAffinity → m.IsDeclared) := by
  obtain ⟨nullable', core⟩ := ty
  cases core with
  | integer => cases h; exact ⟨trivial, id⟩
  | float => cases h; exact ⟨trivial, id⟩
  | string => cases h
  | blob => cases h
  | boolean => cases h
  | any =>
    rw [narrow_any, Option.some.injEq] at h
    subst h
    exact ⟨⟨_, rfl⟩, fun haffinity => by simp [CoreType.IsAffinity] at haffinity⟩

/-- Well-formed types meet in well-formed ones, and what is declared stays declared. -/
theorem WellFormed.meet {l r m : InferredType} (hl : l.WellFormed) (hr : r.WellFormed)
    (h : l.meet r = some m) : m.WellFormed ∧ (l.IsDeclared → m.IsDeclared) := by
  unfold InferredType.meet at h
  split at h
  · next left right =>
    obtain ⟨meet, hmeet, rfl⟩ := Option.map_eq_some_iff.mp h
    refine ⟨trivial, fun hdeclared => ?_⟩
    have hcore := (ColumnType.meet_eq_some_iff.mp hmeet).1
    show meet.core.IsAffinity
    rw [CoreType.IsAffinity.eq_of_meet hdeclared hcore]
    exact hdeclared
  · next alternatives ty =>
    obtain ⟨nullable, rfl⟩ := hl
    exact ⟨(WellFormed.of_narrow h).1, False.elim⟩
  · next ty alternatives =>
    obtain ⟨nullable, rfl⟩ := hr
    exact WellFormed.of_narrow h
  · next left right =>
    obtain ⟨nullable, rfl⟩ := hl
    obtain ⟨nullable', rfl⟩ := hr
    rw [narrow_integerAlternatives, Option.some.injEq] at h
    subst h
    exact ⟨⟨_, rfl⟩, False.elim⟩
  · cases h

end InferredType

namespace Bindings

open InferredType (WellFormed)

variable {b b' : Bindings} {v x : VarId} {l r c t : InferredType}

/-! ## Unifications -/

/-- What is combined with a declared type is declared. -/
theorem Combines.isDeclared (hb : b.Acyclic) (h : Combines b l r c b')
    (hbound : b.AllBound WellFormed) (hl : l.WellFormed) (hr : r.WellFormed)
    (hdeclared : (b.resolve l).IsDeclared) (hplain : ∀ y, b.resolve r ≠ .var y) :
    c.IsDeclared := by
  induction h with
  | same hvar _ =>
    rw [hvar] at hdeclared
    exact hdeclared.elim
  | bindLeft hvar _ =>
    rw [hvar] at hdeclared
    exact hdeclared.elim
  | bindRight hvar _ => exact (hplain _ hvar).elim
  | ends h => exact ((hbound.resolve hb hl).meet (hbound.resolve hb hr) h).2 hdeclared
  | @openLeft l r input result c b₁ hcast _ _ ih =>
    have hopened := hbound.resolve hb hl
    rw [hcast] at hopened
    obtain ⟨-, hresult, hresultDeclared⟩ := hopened
    refine ih hresult (hbound.resolve hb hr) ?_ ?_
    · rwa [hresultDeclared.resolve_eq]
    · rwa [hb.resolve_resolve]
  | @openRight l r input result c b₁ hother hcast _ ih =>
    have hopened := hbound.resolve hb hr
    rw [hcast] at hopened
    obtain ⟨-, hresult, hresultDeclared⟩ := hopened
    refine ih hresult (hbound.resolve hb hl) ?_ ?_
    · rwa [hresultDeclared.resolve_eq]
    · rw [hb.resolve_resolve]
      exact hother.1

theorem Combines.wellFormed (hb : b.Acyclic) (h : Combines b l r c b')
    (hbound : b.AllBound WellFormed) (hl : l.WellFormed) (hr : r.WellFormed) :
    c.WellFormed ∧ b'.AllBound WellFormed := by
  refine h.allBound hb ?_ ?_ ?_ hbound hl hr
  · exact fun l r m hl hr hmeet => (hl.meet hr hmeet).1
  · exact fun input result hcast => hcast.2.1
  · rintro input result r c b₁ ⟨hinput, hresult, hdeclared⟩ hr hplain hcombines hc
    refine ⟨hinput, hc, hcombines.isDeclared hb hbound hresult hr ?_ hplain⟩
    rwa [hdeclared.resolve_eq]

theorem Acyclic.wellFormed_unify (hb : b.Acyclic) (hbound : b.AllBound WellFormed)
    (hl : l.WellFormed) (hr : r.WellFormed) (h : b.unify l r = (.ok c, b')) :
    c.WellFormed ∧ b'.AllBound WellFormed := by
  obtain ⟨b₁, hcombines, rfl⟩ := hb.unify_ok h
  obtain ⟨hc, hb₁⟩ := hcombines.wellFormed hb hbound hl hr
  exact ⟨hc, (hb₁.assignRoot _ hc).assignRoot _ hc⟩

/-! ## Casts before and after -/

/-- A cast has the nullability that its input comes down to, whether it was known or not. -/
theorem concrete_ofCast (b : Bindings) (h : t.WellFormed) (name : TypeName) :
    b.concrete (.ofCast name t) = ⟨(b.concrete t).nullable, name.affinity⟩ := by
  have hlate : b.concrete (.cast t (.column (.notNull name.affinity))) =
      ⟨(b.concrete t).nullable, name.affinity⟩ := by
    rw [concrete_cast]
    simp [ColumnType.withNullable, ColumnType.notNull]
  cases t with
  | column ty => simp [InferredType.ofCast, ColumnType.withCore]
  | oneOf alternatives =>
    obtain ⟨nullable, rfl⟩ := h
    simp [InferredType.ofCast, InferredType.integerAlternatives]
  | cast input result => exact hlate
  | var id => exact hlate

/-- A variable without binding is bound to what it is unified with, unless this is the variable
itself. -/
theorem Acyclic.unify_unbound (hb : b.Acyclic) (hv : b.get? v = none)
    (h : b.unify (.var v) t = (.ok c, b')) :
    b.resolve t = .var v ∨ b'.get? v = some (b.resolve t) ∧
      ∀ x, b.get? x = some (b.resolve t) → b'.get? x = some (b.resolve t) := by
  by_cases hself : b.resolve t = .var v
  · exact Or.inl hself
  have hvar : b.resolve (.var v) = .var v := resolve_var_none hv
  have hok : (b.unify (.var v) t).1.isOk = true := by
    rw [h]
    rfl
  rw [isOk_unify, combine_var_left hvar hself, hb.isOk_bind_iff] at hok
  rw [hb.unify_var_left hvar hok] at h
  obtain ⟨-, rfl⟩ := Prod.mk.inj h
  refine Or.inr ⟨?_, fun x hx => ?_⟩
  · exact get?_assignRoot_of_get? (get?_assignRoot_of_get? (by simp [get?_insert]))
  · exact get?_assignRoot_of_get? (get?_assignRoot_of_get? (by simp [get?_insert, hx]))

/-- A variable without binding comes down to what it was unified with. -/
theorem Acyclic.concrete_unify_unbound (hb : b.Acyclic) (hv : b.get? v = none)
    (h : b.unify (.var v) t = (.ok c, b')) : b'.concrete (.var v) = b'.concrete t := by
  have hb' := hb.of_unify h
  have hkept := hb.keepsLinks_unify h
  rcases hb.unify_unbound hv h with hself | ⟨hbound, hothers⟩
  · have hroot := root_of_resolve_eq_var hself
    exact (hb'.concrete_eq_of_chain_eq (hkept.chain_eq hb hb' hroot)).symm
  rw [hb'.concrete_bound hbound]
  cases t with
  | column ty => rw [resolve_column]
  | oneOf alternatives => rw [resolve_oneOf]
  | cast input result => rw [resolve_cast]
  | var w =>
    -- the variable goes on coming to its root, which was without binding or keeps its type
    obtain ⟨x, hroot⟩ := exists_root_var b w
    rw [hb'.concrete_eq_of_chain_eq (hkept.chain_eq hb hb' hroot)]
    rcases hb.get?_root hroot with hopen | hx
    · rw [hopen]
    · rw [hb'.concrete_bound (hothers x hx)]

end Bindings

/-! ## Runs -/

/-- A session with the types that it has handed out. -/
structure FrontEnd where
  session : Session := {}
  /-- The variables and the results of unifications, the latest first. -/
  handed : List InferredType := []

/-- The types that can be built from those that were handed out. -/
inductive Built (handed : List InferredType) : InferredType → Prop where
  | handed {ty : InferredType} (h : ty ∈ handed) : Built handed ty
  | literal (literal : Literal) : Built handed (.ofLiteral literal)
  | column (ty : ColumnType) : Built handed (.column ty)
  | ofCast (name : TypeName) {input : InferredType} (h : Built handed input) :
      Built handed (.ofCast name input)

/-- The type that a call hands out. A unification that fails hands out none. -/
def Session.returned (s : Session) : Call → Option InferredType
  | .fresh => some (.var s.supply.fresh.1)
  | .parameter parameter => some (s.inference.parameter s.supply parameter).1
  | .unify left right => (s.inference.unify left right).1.toOption
  | .others _ => none

theorem Built.wellFormed {handed : List InferredType} {ty : InferredType} (h : Built handed ty)
    (hhanded : ∀ ty ∈ handed, ty.WellFormed) : ty.WellFormed := by
  induction h with
  | handed h => exact hhanded _ h
  | literal literal => exact InferredType.wellFormed_ofLiteral literal
  | column ty => trivial
  | ofCast name _ ih => exact ih.ofCast name

namespace FrontEnd

open InferredType (WellFormed)

variable {front : FrontEnd}

/-- The front end after a call. -/
def call (front : FrontEnd) (call : Call) : FrontEnd where
  session := front.session.call call
  handed := (front.session.returned call).toList ++ front.handed

/-- The front end is reached by calls that unify only types that it has built. -/
inductive Reached : FrontEnd → Prop where
  | start (supply : Supply) : Reached { session := { supply } }
  | call {front : FrontEnd} (h : Reached front) (call : Call)
      (hbuilt : ∀ l r, call = .unify l r → Built front.handed l ∧ Built front.handed r) :
      Reached (front.call call)

/-- What holds of all types in a front end that is reached. -/
structure Invariant (front : FrontEnd) : Prop where
  acyclic : front.session.bindings.Acyclic
  bound : front.session.bindings.AllBound WellFormed
  handed : ∀ ty ∈ front.handed, ty.WellFormed

theorem Invariant.wellFormed_returned (h : front.Invariant) {call : Call}
    (hbuilt : ∀ l r, call = .unify l r → Built front.handed l ∧ Built front.handed r)
    {ty : InferredType} (hty : front.session.returned call = some ty) : ty.WellFormed := by
  cases call with
  | fresh => cases hty; trivial
  | others supply => cases hty
  | parameter parameter =>
    cases hty
    unfold Inference.parameter
    split <;> trivial
  | unify l r =>
    obtain ⟨hl, hr⟩ := hbuilt l r rfl
    rcases hunify : front.session.inference.unify l r with ⟨outcome, inference⟩
    rw [Session.returned, hunify] at hty
    cases outcome with
    | error error => cases hty
    | ok c =>
      cases hty
      exact (h.acyclic.wellFormed_unify h.bound (hl.wellFormed h.handed) (hr.wellFormed h.handed)
        (Inference.bindings_unify hunify)).1

/-- A call keeps all types well-formed. -/
theorem Invariant.call (h : front.Invariant) {call : Call}
    (hbuilt : ∀ l r, call = .unify l r → Built front.handed l ∧ Built front.handed r) :
    (front.call call).Invariant := by
  have hhanded : ∀ ty ∈ (front.call call).handed, ty.WellFormed := by
    intro ty hty
    rcases List.mem_append.mp hty with hnew | hold
    · exact h.wellFormed_returned hbuilt (Option.mem_toList.mp hnew)
    · exact h.handed ty hold
  rcases front.session.call_bindings call with hkept | ⟨l, r, c, rfl, hunify⟩
  · refine ⟨?_, ?_, hhanded⟩
    · show (front.session.call call).bindings.Acyclic
      rw [hkept]
      exact h.acyclic
    · show (front.session.call call).bindings.AllBound WellFormed
      rw [hkept]
      exact h.bound
  · obtain ⟨hl, hr⟩ := hbuilt l r rfl
    have hbound := (h.acyclic.wellFormed_unify h.bound (hl.wellFormed h.handed)
      (hr.wellFormed h.handed) hunify).2
    exact ⟨h.acyclic.of_unify hunify, hbound, hhanded⟩

theorem Reached.invariant (h : front.Reached) : front.Invariant := by
  induction h with
  | start supply => exact ⟨Bindings.acyclic_empty, Bindings.allBound_empty WellFormed, by simp⟩
  | call _ call hbuilt ih => exact ih.call hbuilt

/-- In every front end that is reached the types that variables are bound to and the types that were
handed out are well-formed. So a cast of a variable without binding and a cast of the type that it
is then unified with come down to the same. -/
theorem types_wellFormed (h : front.Reached) :
    front.session.bindings.AllBound WellFormed ∧
    (∀ ty ∈ front.handed, ty.WellFormed) ∧
    ∀ v t c inference, front.session.bindings.get? v = none → Built front.handed t →
      front.session.inference.unify (.var v) t = (.ok c, inference) →
      c.WellFormed ∧
      ∀ name, inference.concrete (.ofCast name (.var v)) = inference.concrete (.ofCast name t) := by
  obtain ⟨hacyclic, hbound, hhanded⟩ := h.invariant
  refine ⟨hbound, hhanded, ?_⟩
  intro v t c inference hv hbuilt hunify
  have ht := hbuilt.wellFormed hhanded
  have hvar : (InferredType.var v).WellFormed := trivial
  have hbindings := Inference.bindings_unify hunify
  refine ⟨(hacyclic.wellFormed_unify hbound hvar ht hbindings).1, fun name => ?_⟩
  show inference.bindings.concrete _ = inference.bindings.concrete _
  rw [Bindings.concrete_ofCast _ hvar, Bindings.concrete_ofCast _ ht,
    hacyclic.concrete_unify_unbound hv hbindings]

/-- A variable is an integer constant that may be null, a parameter is the variable cast to text,
and another variable is unified with the parameter. -/
theorem types_wellFormed_of_constant :
    let text : TypeName := ⟨["TEXT"]⟩
    let start : FrontEnd := {}
    let front := ((((start.call .fresh).call (.unify (.var 0) (.ofLiteral (.integer 1)))).call
      (.unify (.var 0) (.column .unknown))).call (.parameter (.positional 1))).call
      (.unify (.var 1) (.ofCast text (.var 0)))
    let bound : InferredType := .cast (.var 0) (.column (.notNull .string))
    front.Reached ∧
      front.session.bindings.get? 0 = some (.oneOf [⟨true, .integer⟩, ⟨true, .float⟩]) ∧
      front.session.bindings.get? 1 = some bound ∧ bound.WellFormed ∧
      ∃ inference, front.session.inference.unify (.var 2) (.var 1) = (.ok bound, inference) ∧
        ∀ name, inference.concrete (.ofCast name (.var 2)) =
          inference.concrete (.ofCast name (.var 1)) := by
  intro text start front bound
  have hreached : front.Reached := by
    refine .call (.call (.call (.call (.call (.start {}) .fresh ?_) _ ?_) _ ?_) _ ?_) _ ?_
    · rintro l r ⟨⟩
    · rintro l r ⟨⟩
      exact ⟨.handed (by decide +kernel), .literal _⟩
    · rintro l r ⟨⟩
      exact ⟨.handed (by decide +kernel), .column _⟩
    · rintro l r ⟨⟩
    · rintro l r ⟨⟩
      exact ⟨.handed (by decide +kernel), .ofCast text (.handed (by decide +kernel))⟩
  obtain ⟨hbound, -, hcast⟩ := types_wellFormed hreached
  have hone : front.session.bindings.get? 1 = some bound := by decide +kernel
  have hunify : front.session.inference.unify (.var 2) (.var 1) =
      (.ok bound, (front.session.inference.unify (.var 2) (.var 1)).2) := by decide +kernel
  exact ⟨hreached, by decide +kernel, hone, hbound 1 bound hone, _, hunify,
    (hcast 2 (.var 1) _ _ (by decide +kernel) (.handed (by decide +kernel)) hunify).2⟩

end FrontEnd

end QueryTyping
