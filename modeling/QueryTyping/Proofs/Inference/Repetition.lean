import QueryTyping.Proofs.Inference.Preference
import QueryTyping.Proofs.Inference.Symmetry
import QueryTyping.Proofs.Inference.Writes

/-!
# Unifying the same types again

Two types that were unified can be unified again, and all column types stay as they are
(`Session.unify_repeated`). The second unification is not without effect: where both sides have
casts, each side may stand for the combined type by then, so its casts are put around themselves and
its alternatives meet themselves. A side may also have been left as it was, because the combined
type leads to its root. In all four cases the casts are the same up to repetition, and the
alternative that is preferred is the same (`InferredType.exists_meet_repeated`), and the column type
depends on nothing else (`Acyclic.repeats_casts`).

That there is a preferred alternative rests on the lists of alternatives not being empty
(`Proper`).
-/

namespace QueryTyping

open InferredType (CastShaped)

namespace InferredType

variable {e f e' f' m ty : InferredType} {p : ColumnType}
  {inputs inputs' all all' : List InferredType}

/-! ## Types with something to choose from -/

/-- No list of alternatives in the type is empty. -/
def HasAlternatives : InferredType → Prop
  | cast input result => input.HasAlternatives ∧ result.HasAlternatives
  | oneOf alternatives => alternatives ≠ []
  | _ => True

/-- No cast in the type has a variable as its result, and no list of alternatives is empty. -/
structure Proper (ty : InferredType) : Prop where
  castShaped : ty.CastShaped
  hasAlternatives : ty.HasAlternatives

theorem IsEnd.hasAlternatives_iff (he : e.IsEnd) : e.HasAlternatives ↔ ∃ p, e.Prefers p := by
  rw [he.exists_prefers_iff]
  rcases he with ⟨column, rfl⟩ | ⟨alternatives, rfl⟩
  · simp [HasAlternatives, InferredType.alternatives]
  · rfl

theorem HasAlternatives.of_casts (h : (casts inputs e).HasAlternatives) : e.HasAlternatives := by
  induction inputs with
  | nil => exact h
  | cons input inputs ih => exact ih h.2

theorem Proper.eq_casts (h : ty.Proper) (hvar : ∀ x, ty ≠ var x) :
    ∃ inputs e p, e.Prefers p ∧ ty = casts inputs e := by
  obtain ⟨inputs, e, he, rfl⟩ := h.castShaped.eq_casts hvar
  obtain ⟨p, hp⟩ := he.hasAlternatives_iff.mp h.hasAlternatives.of_casts
  exact ⟨inputs, e, p, hp, rfl⟩

/-! ## Meeting in either order -/

/-- What was unified meets again with the same preference, whether a side is as it was or stands for
the combined type. -/
theorem exists_meet_repeated (hm : (if inputs' = [] then e.meet f else f.meet e) = some m)
    (hp : m.Prefers p)
    (hl : all = inputs ∧ e' = e ∨ all = inputs ++ inputs' ∧ e' = m)
    (hr : all' = inputs' ∧ f' = f ∨ all' = inputs ++ inputs' ∧ f' = m) :
    ∃ n, (if all' = [] then e'.meet f' else f'.meet e') = some n ∧ n.Prefers p := by
  rcases hl with ⟨rfl, rfl⟩ | ⟨rfl, rfl⟩
  · rcases hr with ⟨rfl, rfl⟩ | ⟨rfl, rfl⟩
    · exact ⟨m, hm, hp⟩
    · by_cases hnil : inputs' = []
      · rw [if_pos hnil] at hm
        obtain ⟨hleft, -, hright⟩ := exists_meet_again hm hp
        split
        · exact hright
        · exact hleft
      · rw [if_neg hnil] at hm
        rw [if_neg (List.append_ne_nil_of_right_ne_nil _ hnil)]
        exact (exists_meet_again hm hp).2.1
  · rcases hr with ⟨rfl, rfl⟩ | ⟨rfl, rfl⟩
    · split at hm
      · next hnil =>
        rw [if_pos hnil]
        exact (exists_meet_again hm hp).2.1
      · next hnil =>
        rw [if_neg hnil]
        exact (exists_meet_again hm hp).2.2
    · rw [ite_self]
      exact hp.meet_self

end InferredType

namespace Bindings

variable {b b' : Bindings} {x y z : VarId} {l r t u c e f m n : InferredType} {p : ColumnType}
  {inputs inputs' all : List InferredType}

/-! ## Proper types are kept -/

theorem Combines.hasAlternatives (hb : b.Acyclic) (h : Combines b l r c b')
    (hbound : b.AllBound InferredType.HasAlternatives) (hl : l.HasAlternatives)
    (hr : r.HasAlternatives) :
    c.HasAlternatives ∧ b'.AllBound InferredType.HasAlternatives := by
  refine h.allBound hb ?_ ?_ ?_ hbound hl hr
  · intro l r m _ _ hmeet
    exact (InferredType.isEnd_of_meet hmeet).hasAlternatives_iff.mpr
      (InferredType.exists_prefers_of_meet hmeet)
  · exact fun _ _ hcast => hcast.2
  · exact fun _ _ _ _ _ hcast _ _ _ hc => ⟨hcast.1, hc⟩

theorem AllBound.unify_proper (hb : b.Acyclic) (hbound : b.AllBound InferredType.Proper)
    (hl : l.Proper) (hr : r.Proper) (h : b.unify l r = (.ok c, b')) :
    b'.AllBound InferredType.Proper := by
  have hshape : b'.AllBound CastShaped :=
    AllBound.unify hb (fun v ty hv => (hbound v ty hv).castShaped) hl.castShaped hr.castShaped h
  obtain ⟨b₁, hcombines, rfl⟩ := hb.unify_ok h
  obtain ⟨hc, hb₁⟩ := hcombines.hasAlternatives hb
    (fun v ty hv => (hbound v ty hv).hasAlternatives) hl.hasAlternatives hr.hasAlternatives
  have hfilled := (hb₁.assignRoot (b.root l) hc).assignRoot (b.root r) hc
  exact fun v ty hv => ⟨hshape v ty hv, hfilled v ty hv⟩

/-! ## What the two sides come to -/

theorem resolve_of_root_eq_none (h : b.root t = none) (b' : Bindings) : b'.resolve t = t := by
  refine resolve_of_ne_var b' ?_
  rintro v rfl
  obtain ⟨x, hx⟩ := exists_root_var b v
  cases h.symm.trans hx

/-- A side that came to the combined type before comes to it afterwards. -/
theorem Acyclic.resolve_unify_of_resolve (hb : b.Acyclic) (h : b.unify l r = (.ok c, b'))
    (ht : t = l ∨ t = r) (hc : ∀ z, c ≠ .var z) (hresolve : b.resolve t = c) :
    b'.resolve t = c := by
  cases hroot : b.root t with
  | none => rw [resolve_of_root_eq_none hroot, ← hresolve, resolve_of_root_eq_none hroot]
  | some x =>
    have hx : b.get? x = some c := by
      rcases hb.get?_root hroot with hvar | hx
      · exact (hc x (hresolve.symm.trans hvar)).elim
      · rw [hx, hresolve]
    exact (hb.resolve_side_iff h ht hroot).mpr
      (Or.inr fun hleads => hb.not_leads_bound hx (hb.leads_of_unify h hleads))

/-- Where something is known about both sides, a side comes to the combined type or is left as it
was. -/
theorem Acyclic.resolve_assignRoots (hb : b.Acyclic) (h : b.unify l r = (.ok c, b'))
    (hwritten : b' = (b.assignRoot (b.root l) c).assignRoot (b.root r) c) (ht : t = l ∨ t = r)
    (hvar : ∀ z, b.resolve t ≠ .var z) :
    b'.resolve t = b.resolve t ∨ b'.resolve t = c := by
  cases hroot : b.root t with
  | none => exact Or.inl (by rw [resolve_of_root_eq_none hroot, resolve_of_root_eq_none hroot])
  | some x =>
    by_cases hleads : b'.Leads c x
    · have hb' := hb.of_unify h
      have hx : b'.get? x = some (b.resolve t) := by
        have hoccurs := hb.occurs_iff.mpr (hb.leads_of_unify h hleads)
        rw [hwritten, hb.get?_assignRoots, if_neg (by simp [hoccurs])]
        exact (hb.get?_root hroot).resolve_left (hvar x)
      refine Or.inl ?_
      rw [← type_chain, (hb.keepsLinks_unify h).chain_eq hb hb' hroot, type_chain,
        hb'.resolve_bound hx, resolve_of_ne_var b' hvar]
    · exact Or.inr ((hb.resolve_side_iff h ht hroot).mpr (Or.inr hleads))

theorem Acyclic.exists_casts_of_side (hb : b.Acyclic)
    (h : b.unify l r = (.ok (.casts all m), b'))
    (hwritten : b' = (b.assignRoot (b.root l) (.casts all m)).assignRoot (b.root r) (.casts all m))
    (ht : t = l ∨ t = r) (hresolve : b.resolve t = .casts inputs e) (he : e.IsEnd) (hm : m.IsEnd) :
    ∃ kept e', b'.resolve t = .casts kept e' ∧ e'.IsEnd ∧
      (kept = inputs ∧ e' = e ∨ kept = all ∧ e' = m) := by
  have hknown : ∀ z, b.resolve t ≠ .var z := hresolve ▸ casts_ne_var inputs he
  rcases hb.resolve_assignRoots h hwritten ht hknown with hkept | hcombined
  · exact ⟨inputs, e, hkept.trans hresolve, he, Or.inl ⟨rfl, rfl⟩⟩
  · exact ⟨all, m, hcombined, hm, Or.inr ⟨rfl, rfl⟩⟩

/-- Nothing is known about what two variables are combined to. -/
theorem Combines.exists_eq_var (h : Combines b l r c b') (hl : b.resolve l = .var x)
    (hr : b.resolve r = .var y) : ∃ z, c = .var z := by
  cases h with
  | same _ _ => exact ⟨_, rfl⟩
  | bindLeft _ _ => exact ⟨y, hr⟩
  | bindRight _ _ => exact ⟨x, hl⟩
  | ends hmeet => simp [hl, InferredType.meet] at hmeet
  | openLeft hcast _ _ => simp [hl] at hcast
  | openRight hplain _ _ => exact (hplain.1 _ hl).elim

/-- A variable takes the type of the other side, which does not lead to the variable. -/
theorem Combines.eq_resolve_right (h : Combines b l r c b') (hl : b.resolve l = .var x)
    (hr : ∀ y, b.resolve r ≠ .var y) : c = b.resolve r ∧ ¬b.Leads c x := by
  cases h with
  | same _ hvar => exact (hr _ hvar).elim
  | bindLeft hvar hleads =>
    rw [hl, InferredType.var.injEq] at hvar
    exact ⟨rfl, hvar ▸ hleads⟩
  | bindRight hvar _ => exact (hr _ hvar).elim
  | ends hmeet => simp [hl, InferredType.meet] at hmeet
  | openLeft hcast _ _ => simp [hl] at hcast
  | openRight hplain _ _ => exact (hplain.1 _ hl).elim

theorem Combines.eq_resolve_left (h : Combines b l r c b') (hl : ∀ y, b.resolve l ≠ .var y)
    (hr : b.resolve r = .var x) : c = b.resolve l ∧ ¬b.Leads c x := by
  cases h with
  | same hvar _ => exact (hl _ hvar).elim
  | bindLeft hvar _ => exact (hl _ hvar).elim
  | bindRight hvar hleads =>
    rw [hr, InferredType.var.injEq] at hvar
    exact ⟨rfl, hvar ▸ hleads⟩
  | ends hmeet => simp [hr, InferredType.meet] at hmeet
  | openLeft _ hplain _ => exact (hplain _ hr).elim
  | openRight _ hcast _ => simp [hr] at hcast

/-! ## The second unification -/

/-- The two types, which have been combined to `c`, can be unified, and that changes neither the
column type of what they are combined to nor of any other type. -/
def Repeats (b : Bindings) (l r c : InferredType) : Prop :=
  ∃ c' b', b.unify l r = (.ok c', b') ∧ b'.value c' = b.value c ∧ ∀ t, b'.value t = b.value t

/-- A variable is unified with itself: nothing is written. -/
theorem repeats_var (hl : b.resolve l = .var x) (hr : b.resolve r = .var x) :
    b.Repeats l r (.var x) := by
  have hunify : b.unify l r = (.ok (.var x), b) := by
    unfold Bindings.unify
    rw [chain_of_resolve_eq_var hl, chain_of_resolve_eq_var hr]
    simp [Chain.unify, Chain.combine, Unified.settle, Chain.root, assignRoot, assign, occurs]
  exact ⟨_, b, hunify, rfl, fun t => rfl⟩

/-- Two types with casts are unified to a type that has the same casts as the one before, up to
repetition, and prefers the same alternative. It is written to roots that stood for the one
before. -/
theorem Acyclic.repeats_casts (hb : b.Acyclic) (hl : b.resolve l = .casts inputs e)
    (hr : b.resolve r = .casts inputs' f) (he : e.IsEnd) (hf : f.IsEnd)
    (hn : (if inputs' = [] then e.meet f else f.meet e) = some n) (hnp : n.Prefers p)
    (hmp : m.Prefers p) (hsame : ∀ input, input ∈ all ↔ input ∈ inputs ++ inputs')
    (hwritten : ∀ w, b.root l = some w ∨ b.root r = some w → ¬b.Leads (.casts all m) w →
      b.get? w = some (.casts all m)) :
    b.Repeats l r (.casts all m) := by
  have hunify := hb.unify_casts_of_meet hl hr he hf hn rfl
  have hb' := hb.of_unify hunify
  have hoccurs (w : VarId) :
      b.occurs w (.casts (inputs ++ inputs') n) = b.occurs w (.casts all m) := by
    rw [occurs_casts b w _ hnp.1, occurs_casts b w _ hmp.1, Bool.eq_iff_iff, List.any_eq_true,
      List.any_eq_true]
    simp only [hsame]
  have hvalue := hb'.value_casts hsame hmp.1 hnp.1
    ((hmp.concrete_eq _).trans (hnp.concrete_eq _).symm)
  have hall := compositional_value.eq_of_rebound hb hb' (fun w => ?_) hvalue
  · exact ⟨_, _, hunify, hvalue.symm.trans (hall _).symm, fun t => (hall t).symm⟩
  · rw [hb.get?_assignRoots]
    split
    · next hw =>
      obtain ⟨hroot, hnot⟩ := hw
      rw [hoccurs, hb.not_occurs_iff] at hnot
      exact Or.inr ⟨hwritten w hroot hnot, rfl⟩
    · exact Or.inl rfl

/-- The roots stand for the combined type after they were written. -/
theorem Acyclic.get?_root_of_unify (hb : b.Acyclic) (h : b.unify l r = (.ok c, b'))
    (hc : ∀ z, c ≠ .var z) (w : VarId) (hw : b'.root l = some w ∨ b'.root r = some w)
    (hleads : ¬b'.Leads c w) : b'.get? w = some c := by
  rw [hb.root_unify h hc, hb.root_unify h hc] at hw
  exact hb.get?_unify_root h hw hleads

/-- Something is known about one side only, and then both come to the type of that side. -/
theorem Acyclic.repeats_of_var (hb : b.Acyclic) (h : b.unify l r = (.ok c, b'))
    (hsides : t = l ∧ u = r ∨ t = r ∧ u = l) (ht : b.resolve t = .var x)
    (hu : b.resolve u = .casts inputs e) (hp : e.Prefers p) : b'.Repeats l r c := by
  have hknown : ∀ y, InferredType.casts inputs e ≠ .var y := casts_ne_var inputs hp.1
  obtain ⟨rfl, hleads⟩ : c = .casts inputs e ∧ ¬b.Leads c x := by
    obtain ⟨b₁, hcombines, -⟩ := hb.unify_ok h
    rcases hsides with ⟨rfl, rfl⟩ | ⟨rfl, rfl⟩
    · exact hu ▸ hcombines.eq_resolve_right ht (hu ▸ hknown)
    · exact hu ▸ hcombines.eq_resolve_left (hu ▸ hknown) ht
  have ht' : b'.resolve t = .casts inputs e :=
    (hb.resolve_side_iff h (hsides.imp And.left And.left) (root_of_resolve_eq_var ht)).mpr
      (Or.inr fun hleads' => hleads (hb.leads_of_unify h hleads'))
  have hu' : b'.resolve u = .casts inputs e :=
    hb.resolve_unify_of_resolve h (hsides.symm.imp And.right And.right) hknown hu
  have hboth : b'.resolve l = .casts inputs e ∧ b'.resolve r = .casts inputs e := by
    rcases hsides with ⟨rfl, rfl⟩ | ⟨rfl, rfl⟩
    · exact ⟨ht', hu'⟩
    · exact ⟨hu', ht'⟩
  obtain ⟨n, hn, hnp⟩ := hp.meet_self
  refine (hb.of_unify h).repeats_casts hboth.1 hboth.2 hp.1 hp.1 ?_ hnp hp (by simp)
    (hb.get?_root_of_unify h hknown)
  rw [ite_self, hn]

/-- Something is known about both sides, and each of them is left as it was or comes to the combined
type. -/
theorem Acyclic.repeats_of_casts (hb : b.Acyclic) (h : b.unify l r = (.ok c, b'))
    (hl : b.resolve l = .casts inputs e) (hr : b.resolve r = .casts inputs' f) (he : e.IsEnd)
    (hf : f.IsEnd) : b'.Repeats l r c := by
  obtain ⟨m, hm, rfl, hwritten⟩ := hb.exists_meet_of_unify_casts hl hr he hf h
  obtain ⟨p, hp⟩ : ∃ p, m.Prefers p := by
    split at hm
    · exact InferredType.exists_prefers_of_meet hm
    · exact InferredType.exists_prefers_of_meet hm
  obtain ⟨all, e', hl', he', hall⟩ := hb.exists_casts_of_side h hwritten (Or.inl rfl) hl he hp.1
  obtain ⟨all', f', hr', hf', hall'⟩ := hb.exists_casts_of_side h hwritten (Or.inr rfl) hr hf hp.1
  obtain ⟨n, hn, hnp⟩ := InferredType.exists_meet_repeated hm hp hall hall'
  have hsame (input : InferredType) : input ∈ inputs ++ inputs' ↔ input ∈ all ++ all' := by
    rcases hall with ⟨rfl, -⟩ | ⟨rfl, -⟩ <;> rcases hall' with ⟨rfl, -⟩ | ⟨rfl, -⟩ <;>
      simp only [List.mem_append] <;> tauto
  exact (hb.of_unify h).repeats_casts hl' hr' he' hf' hn hnp hp hsame
    (hb.get?_root_of_unify h (casts_ne_var _ hp.1))

/-- Nothing is known about either side: both come to one variable. -/
theorem Acyclic.repeats_of_vars (hb : b.Acyclic) (h : b.unify l r = (.ok (.var z), b')) :
    b'.Repeats l r (.var z) := by
  have hz := hb.get?_unify_combined h
  have hside (t : InferredType) (ht : t = l ∨ t = r) (hvar : ∃ x, b.resolve t = .var x) :
      b'.resolve t = .var z := by
    obtain ⟨x, hx⟩ := hvar
    rw [hb.resolve_side_iff h ht (root_of_resolve_eq_var hx), ClearOf, leads_unbound hz,
      InferredType.var.injEq]
    exact em _
  obtain ⟨b₁, hcombines, -⟩ := hb.unify_ok h
  obtain ⟨hl, hr⟩ := hcombines.resolve_eq_var
  exact repeats_var (hside l (Or.inl rfl) hl) (hside r (Or.inr rfl) hr)

/-- After a unification of proper types the same unification changes nothing that is read. -/
theorem Acyclic.repeats (hb : b.Acyclic) (hbound : b.AllBound InferredType.Proper) (hl : l.Proper)
    (hr : r.Proper) (h : b.unify l r = (.ok c, b')) : b'.Repeats l r c := by
  have hproper {t : InferredType} (ht : t.Proper) := (hbound.resolve hb ht).eq_casts
  by_cases hlvar : ∃ x, b.resolve l = .var x
  · obtain ⟨x, hx⟩ := hlvar
    by_cases hrvar : ∃ y, b.resolve r = .var y
    · obtain ⟨y, hy⟩ := hrvar
      obtain ⟨b₁, hcombines, -⟩ := hb.unify_ok h
      obtain ⟨z, rfl⟩ := hcombines.exists_eq_var hx hy
      exact hb.repeats_of_vars h
    · obtain ⟨inputs, e, p, hp, hcasts⟩ := hproper hr (not_exists.mp hrvar)
      exact hb.repeats_of_var h (Or.inl ⟨rfl, rfl⟩) hx hcasts hp
  · obtain ⟨inputs, e, p, hp, hcasts⟩ := hproper hl (not_exists.mp hlvar)
    by_cases hrvar : ∃ y, b.resolve r = .var y
    · obtain ⟨y, hy⟩ := hrvar
      exact hb.repeats_of_var h (Or.inr ⟨rfl, rfl⟩) hy hcasts hp
    · obtain ⟨inputs', f, p', hp', hcasts'⟩ := hproper hr (not_exists.mp hrvar)
      exact hb.repeats_of_casts h hcasts hcasts' hp.1 hp'.1

end Bindings

namespace Session

open InferredType (Proper)

variable {s : Session} {l r c : InferredType} {one : Inference}

/-- The session is reached, and only proper types were unified. -/
def ReachedByProper (s : Session) : Prop :=
  ∃ supply calls, (∀ l r, .unify l r ∈ calls → l.Proper ∧ r.Proper) ∧ s = run { supply } calls

theorem ReachedByProper.acyclic_and_proper (h : s.ReachedByProper) :
    s.bindings.Acyclic ∧ s.bindings.AllBound Proper := by
  obtain ⟨supply, calls, hcalls, rfl⟩ := h
  exact run_allBound Bindings.AllBound.unify_proper hcalls

/-- In every session that was reached by unifying proper types, two such types that were unified
with success are unified again with success. The combined type comes down to the same column type as
the first time, and every type, in particular every variable, to the same as before. -/
theorem unify_repeated (hs : s.ReachedByProper) (hl : l.Proper) (hr : r.Proper)
    (h : s.inference.unify l r = (.ok c, one)) :
    ∃ c' two, one.unify l r = (.ok c', two) ∧ two.concrete c' = one.concrete c ∧
      ∀ t, two.concrete t = one.concrete t := by
  obtain ⟨hb, hbound⟩ := hs.acyclic_and_proper
  obtain ⟨c', b', hunify, hcombined, hall⟩ := hb.repeats hbound hl hr (Inference.bindings_unify h)
  have hafter : one.unify l r = (.ok c', { one with bindings := b' }) := by
    rw [Inference.unify, hunify]
  exact ⟨c', _, hafter, congrArg Prod.fst hcombined, fun t => congrArg Prod.fst (hall t)⟩

/-- A parameter that is a cast to an integer or a float, and a cast of another value. The second
unification repeats a cast and puts the alternatives behind the first one in another order, so the
parameter stands for another type. -/
theorem unify_repeated_for_casts :
    let s := run {} [
      .parameter (.positional 1),
      .unify (.var 0) (.cast (.var 2) (.oneOf [.notNull .integer, .notNull .float])),
      .unify (.var 1) (.column (.orNull .string))]
    let r := InferredType.cast (.var 1) (.oneOf [.notNull .float, .unknown])
    let c := InferredType.cast (.var 2) (.cast (.var 1)
      (.oneOf [.notNull .float, .orNull .integer, .orNull .float]))
    let c' := InferredType.cast (.var 2) (.cast (.var 1) (.cast (.var 1)
      (.oneOf [.notNull .float, .orNull .float, .orNull .integer])))
    let one := (s.inference.unify (.var 0) r).2
    let two := (one.unify (.var 0) r).2
    s.ReachedByProper ∧ r.Proper ∧
      (s.inference.unify (.var 0) r).1 = .ok c ∧ (one.unify (.var 0) r).1 = .ok c' ∧
      one.bindings.get? 0 = some c ∧ two.bindings.get? 0 = some c' ∧
      two.concrete c' = one.concrete c ∧ ∀ t, two.concrete t = one.concrete t := by
  intro s r c c' one two
  have hs : s.ReachedByProper := by
    refine ⟨_, _, fun l r hmem => ?_, rfl⟩
    simp only [List.mem_cons, Call.unify.injEq, reduceCtorEq, List.not_mem_nil, or_false,
      false_or] at hmem
    rcases hmem with ⟨rfl, rfl⟩ | ⟨rfl, rfl⟩
    · exact ⟨⟨trivial, trivial⟩, by simp [InferredType.CastShaped],
        by simp [InferredType.HasAlternatives]⟩
    · exact ⟨⟨trivial, trivial⟩, trivial, trivial⟩
  have hl : (InferredType.var 0).Proper := ⟨trivial, trivial⟩
  have hr : r.Proper :=
    ⟨by simp [r, InferredType.CastShaped], by simp [r, InferredType.HasAlternatives]⟩
  have hone : (s.inference.unify (.var 0) r).1 = .ok c := by decide +kernel
  have htwo : (one.unify (.var 0) r).1 = .ok c' := by decide +kernel
  have hbound : one.bindings.get? 0 = some c := by decide +kernel
  have hbound' : two.bindings.get? 0 = some c' := by decide +kernel
  obtain ⟨_, _, hunify, hcombined, hall⟩ := unify_repeated hs hl hr (Prod.ext hone rfl)
  obtain rfl : two = _ := congrArg Prod.snd hunify
  obtain rfl := Except.ok.inj (htwo.symm.trans (congrArg Prod.fst hunify))
  exact ⟨hs, hr, hone, htwo, hbound, hbound', hcombined, hall⟩

end Session

end QueryTyping
