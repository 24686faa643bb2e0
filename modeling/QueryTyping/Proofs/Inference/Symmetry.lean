import QueryTyping.Proofs.Inference.CastShape
import QueryTyping.Proofs.Inference.Outcomes

/-!
# The order of the two types

It makes no difference in which order two types are unified, as long as no cast has a variable as
its result (`Session.unify_symmetric`). The two bindings that come out are not the same: one of two
variables is bound to the other, the casts of the first type stand outside, and what the endings
have in common is listed in the order of the first. But nothing that is read off a type part by part
shows it.

Such readings are `Compositional`. Two bindings give the same reading for all types if they do for
the types in which they differ (`Compositional.eq_of_rebound`), or if they differ in a variable that
is bound to another (`Compositional.eq_of_linked`). What is known about a type is such a reading;
its column type is, too, if it is read together with whether there are casts (`value`).
-/

namespace QueryTyping

open ColumnType (meets)
open InferredType (CastShaped NoOneOf)

/-- There is at most one column type to choose from. -/
theorem InferredType.NoOneOf.options_subsingleton {ty : InferredType} (h : ty.NoOneOf) :
    ty.options.Subsingleton := by
  cases ty with
  | column column =>
    rw [options_column]
    exact Set.subsingleton_singleton
  | oneOf alternatives => exact h.elim
  | cast input result => exact fun column hcolumn => absurd hcolumn List.not_mem_nil
  | var id => exact fun column hcolumn => absurd hcolumn List.not_mem_nil

namespace Bindings

variable {α : Type} {observe : Bindings → InferredType → α} {b b' : Bindings} {x y : VarId}
  {l r t c c' e f : InferredType} {inputs inputs' : List InferredType}

/-! ## Readings -/

/-- The reading of a type depends on the readings of its parts, and a bound variable is read like
its type. -/
structure Compositional (observe : Bindings → InferredType → α) : Prop where
  column : ∀ b b' ty, observe b (.column ty) = observe b' (.column ty)
  oneOf : ∀ b b' alternatives, observe b (.oneOf alternatives) = observe b' (.oneOf alternatives)
  cast : ∀ {b b' input result}, observe b input = observe b' input →
    observe b result = observe b' result →
    observe b (.cast input result) = observe b' (.cast input result)
  unbound : ∀ {b b' x y}, b.get? x = none → b'.get? y = none →
    observe b (.var x) = observe b' (.var y)
  bound : ∀ {b x ty}, b.Acyclic → b.get? x = some ty → observe b (.var x) = observe b ty

theorem Compositional.eq_of_vars (h : Compositional observe) (hb : b.Acyclic)
    (hunbound : ∀ x, b.get? x = none → observe b (.var x) = observe b' (.var x))
    (hbound : ∀ x ty, b.get? x = some ty → observe b' (.var x) = observe b' ty)
    (t : InferredType) : observe b t = observe b' t := by
  induction t using hb.induction with
  | column ty => exact h.column b b' ty
  | oneOf alternatives => exact h.oneOf b b' alternatives
  | cast input result ihinput ihresult => exact h.cast ihinput ihresult
  | unbound id hid => exact hunbound id hid
  | bound id ty hid ih => rw [h.bound hb hid, ih, hbound id ty hid]

/-- Variables may be bound to another type that is read alike. -/
theorem Compositional.eq_of_rebound (h : Compositional observe) (hb : b.Acyclic)
    (hb' : b'.Acyclic)
    (hget : ∀ x, b'.get? x = b.get? x ∨ b.get? x = some c ∧ b'.get? x = some c')
    (hc : observe b' c = observe b' c') (t : InferredType) : observe b t = observe b' t := by
  refine h.eq_of_vars hb (fun x hx => ?_) (fun x ty hx => ?_) t
  · rcases hget x with hsame | ⟨hbound, -⟩
    · exact h.unbound hx (hsame.trans hx)
    · rw [hx] at hbound
      cases hbound
  · rcases hget x with hsame | ⟨hbound, hbound'⟩
    · exact h.bound hb' (hsame.trans hx)
    · rw [hx, Option.some.injEq] at hbound
      rw [h.bound hb' hbound', hbound, hc]

/-- A variable about which nothing is known may be bound to another such variable. -/
theorem Compositional.eq_of_linked (h : Compositional observe) (hb : b.Acyclic)
    (hb' : b'.Acyclic) (hx : b.get? x = none) (hy : b.get? y = none) (hne : x ≠ y)
    (hget : ∀ w, b'.get? w = if w = x then some (.var y) else b.get? w) (t : InferredType) :
    observe b t = observe b' t := by
  have hx' : b'.get? x = some (.var y) := by rw [hget, if_pos rfl]
  have hy' : b'.get? y = none := by rw [hget, if_neg hne.symm, hy]
  refine h.eq_of_vars hb (fun w hw => ?_) (fun w ty hw => ?_) t
  · by_cases hwx : w = x
    · rw [hwx, h.bound hb' hx']
      exact h.unbound hx hy'
    · exact h.unbound hw (by rw [hget, if_neg hwx, hw])
  · refine h.bound hb' ?_
    rw [hget, if_neg, hw]
    rintro rfl
    rw [hx] at hw
    cases hw

/-! ## What is known, and the column type -/

theorem compositional_known : Compositional known where
  column b b' ty := by rw [known, ending_column, known, ending_column]
  oneOf b b' alternatives := by rw [known, ending_oneOf, known, ending_oneOf]
  cast {b b' input result} _ hresult := by
    rw [known, ending_cast, ← known, hresult, known, known, ending_cast]
  unbound hx hy := by rw [known, ending_var_none hx, known, ending_var_none hy]
  bound hb h := hb.known_bound h

/-- The column type that a type comes down to, and whether there are no casts on the way; a cast
around the type looks at both. -/
def value (b : Bindings) (t : InferredType) : ColumnType × Bool :=
  (b.concrete t, (b.inputs t).isEmpty)

theorem compositional_value : Compositional value where
  column b b' ty := by simp [value]
  oneOf b b' alternatives := by simp [value]
  cast {b b' input result} hinput hresult := by
    simp only [value, Prod.mk.injEq] at hinput hresult ⊢
    rw [concrete_cast, concrete_cast, hinput.1, hresult.1, hresult.2, inputs_cast, inputs_cast]
    exact ⟨rfl, rfl⟩
  unbound hx hy := by simp [value, hx, hy]
  bound hb h := by rw [value, hb.concrete_bound h, hb.inputs_bound h, value]

/-- The order of the casts and their repetition make no difference to the column type. -/
theorem Acyclic.value_casts (hb : b.Acyclic)
    (hsame : ∀ input, input ∈ inputs ↔ input ∈ inputs') (he : e.IsEnd) (hf : f.IsEnd)
    (h : b.concrete e = b.concrete f) :
    b.value (.casts inputs e) = b.value (.casts inputs' f) := by
  obtain ⟨hinputs, hending⟩ := reading_casts b inputs he
  obtain ⟨hinputs', hending'⟩ := reading_casts b inputs' hf
  have hnil : inputs = [] ↔ inputs' = [] := by
    simp only [List.eq_nil_iff_forall_not_mem, hsame]
  have hany : (inputs.any fun input => (b.concrete input).nullable) =
      inputs'.any fun input => (b.concrete input).nullable := by
    rw [Bool.eq_iff_iff, List.any_eq_true, List.any_eq_true]
    simp only [hsame]
  have hcore : (b.concrete (.casts inputs e)).core = (b.concrete (.casts inputs' f)).core := by
    rw [hb.concrete_core, hb.concrete_core (.casts inputs' f), hending, hending', h]
  have hnullable : (b.concrete (.casts inputs e)).nullable =
      (b.concrete (.casts inputs' f)).nullable := by
    rw [hb.concrete_nullable, hb.concrete_nullable (.casts inputs' f), hinputs, hinputs', hending,
      hending', h, hany]
    simp only [hnil]
  have hempty : inputs.isEmpty = inputs'.isEmpty := by
    rw [Bool.eq_iff_iff, List.isEmpty_iff, List.isEmpty_iff, hnil]
  rw [value, value, hinputs, hinputs', hempty]
  exact Prod.ext (congrArg₂ ColumnType.mk hnullable hcore) rfl

/-! ## Unifying in either order -/

/-- In either order the types are unified or not, and then the reading is the same for the combined
types and for all others. -/
def Commutes (observe : Bindings → InferredType → α) (b : Bindings) (l r : InferredType) : Prop :=
  (b.unify l r).1.isOk = (b.unify r l).1.isOk ∧
    ∀ c c' b₁ b₂, b.unify l r = (.ok c, b₁) → b.unify r l = (.ok c', b₂) →
      observe b₁ c = observe b₂ c' ∧ ∀ t, observe b₁ t = observe b₂ t

theorem Commutes.symm (h : Commutes observe b l r) : Commutes observe b r l := by
  refine ⟨h.1.symm, fun c c' b₁ b₂ hunify hunify' => ?_⟩
  obtain ⟨hcombined, hall⟩ := h.2 c' c b₂ b₁ hunify' hunify
  exact ⟨hcombined.symm, fun t => (hall t).symm⟩

/-- Two variables without binding: the left one is bound to the right one. -/
theorem Acyclic.unify_vars (hb : b.Acyclic) (hl : b.resolve l = .var x) (hr : b.resolve r = .var y)
    (hne : x ≠ y) :
    ∃ b', b.unify l r = (.ok (.var y), b') ∧
      ∀ w, b'.get? w = if w = x then some (.var y) else b.get? w := by
  have hleads : ¬b.Leads (b.resolve r) x := by
    rw [hr, leads_unbound (hb.get?_of_resolve_eq_var hr)]
    exact hne.symm
  have hunify := hb.unify_var_left hl hleads
  rw [hr] at hleads hunify
  refine ⟨_, hunify, fun w => ?_⟩
  rw [(hb.insert hleads).get?_assignRoots, root_of_resolve_eq_var hl, root_of_resolve_eq_var hr,
    get?_insert]
  split
  · next h =>
    obtain ⟨hroot | hroot, hoccurs⟩ := h
    · rw [if_pos (Option.some.inj hroot).symm]
    · -- the right one is not bound to itself
      cases hroot
      rw [(hb.insert hleads).not_occurs_iff] at hoccurs
      exact (hoccurs (leads_var_self _ y)).elim
  · rfl

theorem Acyclic.commutes_vars (hb : b.Acyclic) (h : Compositional observe)
    (hl : b.resolve l = .var x) (hr : b.resolve r = .var y) : Commutes observe b l r := by
  by_cases hxy : x = y
  · subst hxy
    have hsame : b.unify l r = b.unify r l := by
      unfold Bindings.unify
      rw [chain_of_resolve_eq_var hl, chain_of_resolve_eq_var hr]
    refine ⟨by rw [hsame], fun c c' b₁ b₂ hunify hunify' => ?_⟩
    rw [hsame, hunify', Prod.mk.injEq, Except.ok.injEq] at hunify
    obtain ⟨rfl, rfl⟩ := hunify
    exact ⟨rfl, fun t => rfl⟩
  · have hx := hb.get?_of_resolve_eq_var hl
    have hy := hb.get?_of_resolve_eq_var hr
    obtain ⟨b₁, hunify, hget⟩ := hb.unify_vars hl hr hxy
    obtain ⟨b₂, hunify', hget'⟩ := hb.unify_vars hr hl (Ne.symm hxy)
    have hb₁ := hb.of_unify hunify
    have hb₂ := hb.of_unify hunify'
    have hall (t : InferredType) : observe b₁ t = observe b₂ t := by
      rw [← h.eq_of_linked hb hb₁ hx hy hxy hget, h.eq_of_linked hb hb₂ hy hx (Ne.symm hxy) hget']
    rw [Commutes, hunify, hunify']
    refine ⟨rfl, ?_⟩
    rintro _ _ _ _ ⟨⟩ ⟨⟩
    refine ⟨h.unbound ?_ ?_, hall⟩
    · rw [hget, if_neg (Ne.symm hxy), hy]
    · rw [hget', if_neg hxy, hx]

/-- Writing to the same two roots in either order changes the same variables. -/
theorem Acyclic.get?_assignRoots_swap (hb : b.Acyclic) (left right : Option VarId)
    (hoccurs : ∀ w, b.occurs w c' = b.occurs w c) (w : VarId) :
    ((b.assignRoot right c').assignRoot left c').get? w =
        ((b.assignRoot left c).assignRoot right c).get? w ∨
      ((b.assignRoot left c).assignRoot right c).get? w = some c ∧
        ((b.assignRoot right c').assignRoot left c').get? w = some c' := by
  have hswap : (right = some w ∨ left = some w) ∧ b.occurs w c' = false ↔
      (left = some w ∨ right = some w) ∧ b.occurs w c = false := by
    rw [hoccurs, or_comm]
  rw [hb.get?_assignRoots, hb.get?_assignRoots]
  simp only [hswap]
  split
  · exact Or.inr ⟨rfl, rfl⟩
  · exact Or.inl rfl

/-- A variable without binding, and a type about which something is known. -/
theorem Acyclic.commutes_var (hb : b.Acyclic) (h : Compositional observe)
    (hl : b.resolve l = .var x) (hr : ∀ y, b.resolve r ≠ .var y) : Commutes observe b l r := by
  have hok : (b.unify l r).1.isOk = (b.unify r l).1.isOk := by
    rw [isOk_unify, isOk_unify, combine_var_left hl (hr x), combine_var_right hr hl]
  refine ⟨hok, fun c c' b₁ b₂ hunify hunify' => ?_⟩
  have hleads : ¬b.Leads (b.resolve r) x := by
    rw [← hb.isOk_bind_iff, ← combine_var_left hl (hr x), ← isOk_unify, hunify]
    rfl
  have hb₁ := hb.of_unify hunify
  have hb₂ := hb.of_unify hunify'
  rw [hb.unify_var_left hl hleads, Prod.mk.injEq, Except.ok.injEq] at hunify
  rw [hb.unify_var_right hr hl hleads, Prod.mk.injEq, Except.ok.injEq] at hunify'
  obtain ⟨rfl, rfl⟩ := hunify
  obtain ⟨rfl, rfl⟩ := hunify'
  have hall := h.eq_of_rebound hb₁ hb₂
    ((hb.insert hleads).get?_assignRoots_swap (b.root l) (b.root r) fun w => rfl) rfl
  exact ⟨hall _, hall⟩

theorem occurs_casts (b : Bindings) (w : VarId) (inputs : List InferredType) (he : e.IsEnd) :
    b.occurs w (.casts inputs e) = inputs.any (b.occurs w) := by
  induction inputs with
  | nil =>
    rcases he with ⟨column, rfl⟩ | ⟨alternatives, rfl⟩
    · rw [InferredType.casts, occurs, List.any_nil]
    · rw [InferredType.casts, occurs, List.any_nil]
  | cons input inputs ih => rw [InferredType.casts, occurs_cast, ih, List.any_cons]

/-- Two types with casts, provided that the order of casts and the order of alternatives play no
part in the reading. -/
theorem Acyclic.commutes_casts (hb : b.Acyclic) (h : Compositional observe)
    (hl : b.resolve l = .casts inputs e) (hr : b.resolve r = .casts inputs' f) (he : e.IsEnd)
    (hf : f.IsEnd)
    (hcasts : ∀ (b' : Bindings) m m', b'.Acyclic → m.IsEnd → m'.IsEnd → m'.options = m.options →
      m.options = meets e.options f.options →
      observe b' (.casts (inputs ++ inputs') m) = observe b' (.casts (inputs' ++ inputs) m')) :
    Commutes observe b l r := by
  have hok := hb.isOk_unify_casts_iff hl hr he hf
  have hok' := hb.isOk_unify_casts_iff hr hl hf he
  rw [ColumnType.meets_comm] at hok'
  refine ⟨Bool.eq_iff_iff.mpr (hok.trans hok'.symm), fun c c' b₁ b₂ hunify hunify' => ?_⟩
  have hb₁ := hb.of_unify hunify
  have hb₂ := hb.of_unify hunify'
  have hnonempty : (meets e.options f.options).Nonempty := by
    rw [← hok, hunify]
    rfl
  obtain ⟨m, _, hm, hoptions, rfl, heq⟩ := hb.unify_casts hl hr he hf hnonempty
  obtain ⟨m', _, hm', hoptions', rfl, heq'⟩ := hb.unify_casts hr hl hf he
    (ColumnType.meets_comm .. ▸ hnonempty)
  rw [ColumnType.meets_comm, ← hoptions] at hoptions'
  rw [heq, Prod.mk.injEq, Except.ok.injEq] at hunify
  rw [heq', Prod.mk.injEq, Except.ok.injEq] at hunify'
  obtain ⟨rfl, rfl⟩ := hunify
  obtain ⟨rfl, rfl⟩ := hunify'
  have hoccurs : ∀ w, b.occurs w (.casts (inputs' ++ inputs) m') =
      b.occurs w (.casts (inputs ++ inputs') m) := by
    intro w
    rw [occurs_casts b w _ hm', occurs_casts b w _ hm, List.any_append, List.any_append,
      Bool.or_comm]
  have hsame := hcasts _ m m' hb₂ hm hm' hoptions' hoptions
  have hall := h.eq_of_rebound hb₁ hb₂ (hb.get?_assignRoots_swap _ _ hoccurs) hsame
  exact ⟨(hall _).trans hsame, hall⟩

theorem Acyclic.commutes (hb : b.Acyclic) (h : Compositional observe)
    (hshape : b.AllBound CastShaped) (hl : l.CastShaped) (hr : r.CastShaped)
    (hcasts : ∀ (b' : Bindings) inputs inputs' m m', b'.Acyclic → List.Perm inputs inputs' →
      m.IsEnd → m'.IsEnd → m'.options = m.options →
      m.options = meets (b.ending l).options (b.ending r).options →
      observe b' (.casts inputs m) = observe b' (.casts inputs' m')) :
    Commutes observe b l r := by
  by_cases hlvar : ∃ x, b.resolve l = .var x
  · obtain ⟨x, hx⟩ := hlvar
    by_cases hrvar : ∃ y, b.resolve r = .var y
    · obtain ⟨y, hy⟩ := hrvar
      exact hb.commutes_vars h hx hy
    · exact hb.commutes_var h hx (not_exists.mp hrvar)
  · by_cases hrvar : ∃ y, b.resolve r = .var y
    · obtain ⟨y, hy⟩ := hrvar
      exact (hb.commutes_var h hy (not_exists.mp hlvar)).symm
    · obtain ⟨inputs, e, he, hle⟩ := (hshape.resolve hb hl).eq_casts (not_exists.mp hlvar)
      obtain ⟨inputs', f, hf, hrf⟩ := (hshape.resolve hb hr).eq_casts (not_exists.mp hrvar)
      rw [hb.ending_of_resolve_eq_casts hle he, hb.ending_of_resolve_eq_casts hrf hf] at hcasts
      exact hb.commutes_casts h hle hrf he hf fun b' m m' hb' =>
        hcasts b' _ _ m m' hb' List.perm_append_comm

theorem Acyclic.commutes_known (hb : b.Acyclic) (hshape : b.AllBound CastShaped)
    (hl : l.CastShaped) (hr : r.CastShaped) : Commutes known b l r := by
  refine hb.commutes compositional_known hshape hl hr ?_
  intro b' inputs inputs' m m' _ _ hm hm' hoptions _
  rw [known_casts, known_casts, known_of_isEnd b' hm, known_of_isEnd b' hm', hoptions]

/-- Without alternatives there is at most one column type at the end, which shows no order. -/
theorem Acyclic.commutes_value (hb : b.Acyclic) (hshape : b.AllBound CastShaped)
    (hl : l.CastShaped) (hr : r.CastShaped) (hnone : b.AllBound NoOneOf) (hnonel : l.NoOneOf)
    (hnoner : r.NoOneOf) : Commutes value b l r := by
  refine hb.commutes compositional_value hshape hl hr ?_
  intro b' inputs inputs' m m' hb' hperm hm hm' hoptions hmeets
  have hsingle : m.options.Subsingleton := by
    rw [hmeets]
    exact ColumnType.meets_subsingleton (hnone.noOneOf_ending hb hnonel).options_subsingleton
      (hnone.noOneOf_ending hb hnoner).options_subsingleton
  exact hb'.value_casts (fun _ => hperm.mem_iff) hm hm'
    (InferredType.concrete_eq_of_options_eq b' b' hm hm' hoptions.symm hsingle)

end Bindings

namespace Session

variable {s : Session} {l r : InferredType}

/-- In every session that was reached by unifying types without a variable as the result of a cast,
two such types are unified in one order exactly if they are in the other. Then the same is known
about the combined types and about all types, and without alternatives all column types are the
same. The types that queries are given are such types. -/
theorem unify_symmetric (hs : s.ReachedByCasts) (hl : l.CastShaped) (hr : r.CastShaped) :
    ((s.inference.unify l r).1.isOk = true ↔ (s.inference.unify r l).1.isOk = true) ∧
      (∀ c c' one other, s.inference.unify l r = (.ok c, one) →
        s.inference.unify r l = (.ok c', other) →
        (one.bindings.known c = other.bindings.known c' ∧
          ∀ t, one.bindings.known t = other.bindings.known t) ∧
        (s.bindings.AllBound NoOneOf → l.NoOneOf → r.NoOneOf →
          one.concrete c = other.concrete c' ∧ ∀ t, one.concrete t = other.concrete t)) ∧
      ∀ t : InferredType, t.Given → t.CastShaped := by
  obtain ⟨hb, hshape⟩ := hs.acyclic_and_castShaped
  obtain ⟨hok, hknown⟩ := hb.commutes_known hshape hl hr
  refine ⟨Bool.eq_iff_iff.mp hok, ?_, fun t ht => ht.castShaped⟩
  intro c c' one other hone hother
  have hunify := Inference.bindings_unify hone
  have hunify' := Inference.bindings_unify hother
  refine ⟨hknown c c' _ _ hunify hunify', fun hnone hnonel hnoner => ?_⟩
  obtain ⟨-, hvalue⟩ := hb.commutes_value hshape hl hr hnone hnonel hnoner
  obtain ⟨hcombined, hall⟩ := hvalue c c' _ _ hunify hunify'
  exact ⟨congrArg Prod.fst hcombined, fun t => congrArg Prod.fst (hall t)⟩

/-- A parameter that is a cast of a value, and a cast of another value: the combined types differ in
the order of the casts. -/
theorem unify_symmetric_for_casts :
    let integer := InferredType.column (.notNull .integer)
    let s := run {} [
      .parameter (.positional 1),
      .parameter (.positional 2),
      .unify (.var 0) (.cast (.var 2) integer)]
    let r := InferredType.cast (.var 1) integer
    let one := (s.inference.unify (.var 0) r).2
    let other := (s.inference.unify r (.var 0)).2
    s.ReachedByCasts ∧ r.CastShaped ∧
      (s.inference.unify (.var 0) r).1 = .ok (.cast (.var 2) (.cast (.var 1) integer)) ∧
      (s.inference.unify r (.var 0)).1 = .ok (.cast (.var 1) (.cast (.var 2) integer)) ∧
      one.bindings ≠ other.bindings ∧
      ∀ t, one.bindings.known t = other.bindings.known t ∧ one.concrete t = other.concrete t := by
  intro integer s r one other
  have hs : s.ReachedByCasts := by
    refine ⟨_, _, ?_, rfl⟩
    simp [InferredType.CastShaped, integer]
  have hr : r.CastShaped := by simp [r, InferredType.CastShaped, integer]
  have hone : (s.inference.unify (.var 0) r).1 = .ok (.cast (.var 2) (.cast (.var 1) integer)) := by
    decide +kernel
  have hother :
      (s.inference.unify r (.var 0)).1 = .ok (.cast (.var 1) (.cast (.var 2) integer)) := by
    decide +kernel
  have hbindings : s.bindings = Bindings.empty.insert 0 (.cast (.var 2) integer) := by
    decide +kernel
  have hnone : s.bindings.AllBound NoOneOf := by
    rw [hbindings]
    exact (Bindings.allBound_empty NoOneOf).insert 0 ⟨trivial, trivial⟩
  have hl : (InferredType.var 0).CastShaped := trivial
  obtain ⟨⟨-, hknown⟩, hconcrete⟩ :=
    (unify_symmetric hs hl hr).2.1 _ _ one other (Prod.ext hone rfl) (Prod.ext hother rfl)
  have hconcrete := (hconcrete hnone trivial ⟨trivial, trivial⟩).2
  refine ⟨hs, hr, hone, hother, ?_, fun t => ⟨hknown t, hconcrete t⟩⟩
  decide +kernel

end Session

end QueryTyping
