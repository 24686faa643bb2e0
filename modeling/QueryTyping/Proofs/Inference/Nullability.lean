import QueryTyping.Proofs.Inference.Concrete
import QueryTyping.Proofs.Inference.Endings
import QueryTyping.Proofs.Inference.Session

/-!
# The nullability of a unified type

Two column types meet in one that is null if either of them is. Behind a cast this is of no avail:
a cast is null if one of its inputs is, and what its ending says is ignored. So a unified type is
null if one of its sides was, as long as no cast is involved; with a cast it is null if one of the
inputs of the casts on both sides is (`Acyclic.nullable_unify`). A plain type that may be null loses
this when it is unified with a cast of something that is not null (`LosesNull`), and if no input is
touched by the unification, this is the only way in which the nullability of a side is lost
(`Session.nullable_unified`).
-/

namespace QueryTyping

/-- There are alternatives, and they agree about null. -/
def InferredType.AgreeOnNull (ty : InferredType) (nullable : Bool) : Prop :=
  ty.alternatives ≠ [] ∧ ∀ a ∈ ty.alternatives, a.nullable = nullable

namespace Bindings

variable {b b' : Bindings} {t l r c m : InferredType} {n n' : Bool}

/-- Every variable that the type leads to is bound, and wherever there are alternatives they agree
about null. -/
inductive Determined (b : Bindings) : InferredType → Prop where
  | column (ty : ColumnType) : Determined b (.column ty)
  | oneOf {alternatives : List ColumnType} {nullable : Bool}
      (h : (InferredType.oneOf alternatives).AgreeOnNull nullable) :
      Determined b (.oneOf alternatives)
  | cast {input result : InferredType} (hinput : Determined b input)
      (hresult : Determined b result) : Determined b (.cast input result)
  | bound {id : VarId} {bound : InferredType} (hid : b.get? id = some bound)
      (h : Determined b bound) : Determined b (.var id)

/-- On the left there is no cast and null, on the right a cast of inputs that are not null. -/
def LosesNull (b : Bindings) (l r : InferredType) : Prop :=
  b.inputs l = [] ∧ b.inputs r ≠ [] ∧
    (b.concrete l).nullable = true ∧ (b.concrete r).nullable = false

/-! ## Endings that agree about null -/

theorem Determined.exists_agreeOnNull (hb : b.Acyclic) (h : b.Determined t) :
    ∃ n, (b.ending t).AgreeOnNull n := by
  induction h with
  | column ty => exact ⟨ty.nullable, by simp [InferredType.AgreeOnNull, InferredType.alternatives]⟩
  | @oneOf alternatives nullable h => exact ⟨nullable, by simpa using h⟩
  | cast _ _ _ ih => simpa using ih
  | bound hid _ ih => rwa [hb.ending_bound hid]

theorem concrete_of_agreeOnNull (b : Bindings) (h : t.AgreeOnNull n) :
    (b.concrete t).nullable = n := by
  obtain ⟨hne, hall⟩ := h
  cases t with
  | column ty =>
    rw [concrete_column]
    exact hall ty (List.mem_singleton_self ty)
  | oneOf alternatives =>
    cases alternatives with
    | nil => exact (hne rfl).elim
    | cons ty rest =>
      rw [concrete_oneOf]
      exact hall ty List.mem_cons_self
  | cast input result => exact (hne rfl).elim
  | var id => exact (hne rfl).elim

theorem agreeOnNull_meet (hl : l.AgreeOnNull n) (hr : r.AgreeOnNull n') (h : l.meet r = some m) :
    m.AgreeOnNull (n || n') := by
  refine ⟨InferredType.meet_alternatives_ne_nil h, fun a ha => ?_⟩
  obtain ⟨x, hx, y, hy, hmeet⟩ := (InferredType.mem_alternatives_meet h).mp ha
  rw [(ColumnType.meet_eq_some_iff.mp hmeet).2, hl.2 x hx, hr.2 y hy]

theorem ne_var_of_agreeOnNull (h : t.AgreeOnNull n) : ∀ x, t ≠ .var x := by
  rintro x rfl
  exact h.1 rfl

/-! ## What a unification says about null -/

/-- Without a cast null comes from either side; with a cast it comes from the inputs. -/
theorem Acyclic.nullable_unify (hb : b.Acyclic) (hl : (b.ending l).AgreeOnNull n)
    (hr : (b.ending r).AgreeOnNull n') (h : b.unify l r = (.ok c, b')) :
    (b'.concrete c).nullable =
      if b.inputs l ++ b.inputs r = [] then n || n'
      else (b.inputs l ++ b.inputs r).any fun input => (b'.concrete input).nullable := by
  have hb' : b'.Acyclic := (hb.endingsAfter_unify h).acyclic
  obtain ⟨b₁, hcombines, -⟩ := hb.unify_ok h
  obtain ⟨m, rfl, hmeet⟩ := hcombines.eq_casts hb (ne_var_of_agreeOnNull hl)
    (ne_var_of_agreeOnNull hr)
  have hm : m.AgreeOnNull (n || n') := by
    rcases hmeet with hmeet | hmeet
    · exact agreeOnNull_meet hl hr hmeet
    · exact Bool.or_comm n n' ▸ agreeOnNull_meet hr hl hmeet
  -- the meet is the ending, and it has no casts of its own
  have hend : m.IsEnd := by
    rcases hmeet with hmeet | hmeet
    · exact InferredType.isEnd_of_meet hmeet
    · exact InferredType.isEnd_of_meet hmeet
  obtain ⟨hinputs, hending, -⟩ := reading_of_isEnd b' hend
  rw [hb'.concrete_nullable, inputs_casts, ending_casts, hinputs, hending, List.append_nil,
    concrete_of_agreeOnNull b' hm]

/-- If the inputs stay as they were, null is kept unless a cast comes over it. -/
theorem Acyclic.nullable_unify_iff (hb : b.Acyclic) (hl : (b.ending l).AgreeOnNull n)
    (hr : (b.ending r).AgreeOnNull n') (h : b.unify l r = (.ok c, b'))
    (hinputs : ∀ input ∈ b.inputs l ++ b.inputs r,
      (b'.concrete input).nullable = (b.concrete input).nullable) :
    (b'.concrete c).nullable = ((b.concrete l).nullable || (b.concrete r).nullable) ↔
      ¬b.LosesNull l r ∧ ¬b.LosesNull r l := by
  have hleft := hb.concrete_nullable l
  have hright := hb.concrete_nullable r
  rw [concrete_of_agreeOnNull b hl] at hleft
  rw [concrete_of_agreeOnNull b hr] at hright
  have hany : ((b.inputs l ++ b.inputs r).any fun input => (b'.concrete input).nullable) =
      (((b.inputs l).any fun input => (b.concrete input).nullable) ||
        (b.inputs r).any fun input => (b.concrete input).nullable) := by
    rw [← List.any_append, Bool.eq_iff_iff, List.any_eq_true, List.any_eq_true]
    exact exists_congr fun input => and_congr_right fun hmem => by rw [hinputs input hmem]
  rw [hb.nullable_unify hl hr h, hany]
  unfold LosesNull
  by_cases hnil : b.inputs l = [] <;> by_cases hnil' : b.inputs r = []
  · simp [hnil, hnil', hleft, hright]
  · rw [if_neg hnil'] at hright
    rw [if_neg fun h => hnil' (List.append_eq_nil_iff.mp h).2, hnil, List.any_nil, ← hright]
    cases (b.concrete l).nullable <;> cases (b.concrete r).nullable <;> simp [hnil']
  · rw [if_neg hnil] at hleft
    rw [if_neg fun h => hnil (List.append_eq_nil_iff.mp h).1, hnil', List.any_nil, ← hleft]
    cases (b.concrete l).nullable <;> cases (b.concrete r).nullable <;> simp [hnil]
  · simp [hnil, hnil', hleft, hright]

/-- What leads to none of the variables that are written is read as before. -/
theorem Acyclic.concrete_unify (hb : b.Acyclic) (h : b.unify l r = (.ok c, b'))
    (ht : ∀ v ∈ b.roots l ++ b.roots r, ¬b.Leads t v) : b'.concrete t = b.concrete t := by
  refine concrete_congr fun v hv => hb.get?_unify h (fun hl => ?_) fun hr => ?_
  · exact ht v (List.mem_append_left _ hl) hv
  · exact ht v (List.mem_append_right _ hr) hv

end Bindings

namespace Session

/-- What the nullability of a unified type is. Without a cast on either side it is null if one of
the sides was. With a cast it is null if one of the inputs of the casts is, so that null is kept,
as long as the inputs stay as they were, unless it stood on a side without a cast and the inputs on
the other side are not null. Inputs stay as they were if they lead to no variable through which one
of the sides is read. -/
theorem nullable_unified {s : Session} (hs : s.Reachable) {l r c : InferredType}
    {inference : Inference} (hl : s.bindings.Determined l) (hr : s.bindings.Determined r)
    (h : s.inference.unify l r = (.ok c, inference)) :
    ((inference.concrete c).nullable =
      if s.bindings.inputs l ++ s.bindings.inputs r = [] then
        (s.inference.concrete l).nullable || (s.inference.concrete r).nullable
      else
        (s.bindings.inputs l ++ s.bindings.inputs r).any
          fun input => (inference.concrete input).nullable) ∧
    ((∀ input ∈ s.bindings.inputs l ++ s.bindings.inputs r,
        (inference.concrete input).nullable = (s.inference.concrete input).nullable) →
      ((inference.concrete c).nullable =
          ((s.inference.concrete l).nullable || (s.inference.concrete r).nullable) ↔
        ¬s.bindings.LosesNull l r ∧ ¬s.bindings.LosesNull r l)) ∧
    ∀ t, (∀ v ∈ s.bindings.roots l ++ s.bindings.roots r, ¬s.bindings.Leads t v) →
      inference.concrete t = s.inference.concrete t := by
  have hb := hs.acyclic
  have hunify := Inference.bindings_unify h
  obtain ⟨n, hn⟩ := hl.exists_agreeOnNull hb
  obtain ⟨n', hn'⟩ := hr.exists_agreeOnNull hb
  refine ⟨?_, hb.nullable_unify_iff hn hn' hunify, fun t ht => hb.concrete_unify hunify ht⟩
  simp only [Inference.concrete, hb.nullable_unify hn hn' hunify]
  split
  · next hnil =>
    obtain ⟨hnil, hnil'⟩ := List.append_eq_nil_iff.mp hnil
    rw [hb.concrete_nullable l, hb.concrete_nullable r, if_pos hnil, if_pos hnil',
      Bindings.concrete_of_agreeOnNull _ hn, Bindings.concrete_of_agreeOnNull _ hn']
  · rfl

/-- A parameter that was compared with a cast of null and then with a cast of something that is not
null keeps null. -/
theorem nullable_unified_of_two_casts :
    let s := run {} [
      .parameter (.positional 1),
      .parameter (.positional 2),
      .parameter (.positional 3),
      .unify (.var 0) (.ofLiteral .null),
      .unify (.var 1) (.column (.notNull .integer)),
      .unify (.var 2) (.cast (.var 0) (.column (.notNull .integer)))]
    let r := InferredType.cast (.var 1) (.column (.notNull .integer))
    s.Reachable ∧ s.bindings.Determined (.var 2) ∧ s.bindings.Determined r ∧
      ∃ c inference, s.inference.unify (.var 2) r = (.ok c, inference) ∧
        (inference.concrete c).nullable = true := by
  intro s r
  have hs : s.Reachable := ⟨_, _, rfl⟩
  have hzero : s.bindings.get? 0 = some (.column .unknown) := by decide +kernel
  have hone : s.bindings.get? 1 = some (.column (.notNull .integer)) := by decide +kernel
  have htwo : s.bindings.get? 2 = some (.cast (.var 0) (.column (.notNull .integer))) := by
    decide +kernel
  have hl : s.bindings.Determined (.var 2) :=
    .bound htwo (.cast (.bound hzero (.column _)) (.column _))
  have hr : s.bindings.Determined r := .cast (.bound hone (.column _)) (.column _)
  have hunify : s.inference.unify (.var 2) r =
      (.ok (.cast (.var 0) (.cast (.var 1) (.column (.notNull .integer)))),
        (s.inference.unify (.var 2) r).2) := Prod.ext (by decide +kernel) rfl
  obtain ⟨-, hkept, hframe⟩ := nullable_unified hs hl hr hunify
  -- the third parameter is written, and neither of the inputs leads to it
  have hroots : s.bindings.roots (.var 2) ++ s.bindings.roots r = [2] := by decide +kernel
  have hinputs : s.bindings.inputs (.var 2) ++ s.bindings.inputs r = [.var 0, .var 1] := by
    decide +kernel
  refine ⟨hs, hl, hr, _, _, hunify, ?_⟩
  rw [(hkept ?_).mpr]
  · decide +kernel
  · unfold Bindings.LosesNull
    decide +kernel
  · rw [hinputs]
    intro input hinput
    refine congrArg _ (hframe input ?_)
    rw [hroots]
    simp only [List.mem_cons, List.not_mem_nil, or_false] at hinput ⊢
    rintro v rfl
    rw [← hs.acyclic.not_occurs_iff]
    rcases hinput with rfl | rfl <;> decide +kernel

/-- A parameter that was compared with null and then with a cast of a parameter that is not null is
reported as not null. -/
theorem null_lost_under_cast :
    let s := run {} [
      .parameter (.positional 1),
      .parameter (.positional 2),
      .unify (.var 0) (.ofLiteral .null),
      .unify (.var 1) (.column (.notNull .integer))]
    let cast := InferredType.ofCast (.parse "INTEGER") (.var 1)
    let unified := s.inference.unify (.var 0) cast
    s.Reachable ∧ s.bindings.Determined (.var 0) ∧ s.bindings.Determined cast ∧
      unified.1 = .ok (.cast (.var 1) (.column (.orNull .integer))) ∧
      s.inference.concrete (.var 0) = .unknown ∧
      unified.2.concrete (.cast (.var 1) (.column (.orNull .integer))) = .notNull .integer ∧
      unified.2.concrete (.var 0) = .notNull .integer := by
  intro s cast unified
  have hzero : s.bindings.get? 0 = some (.column .unknown) := by decide +kernel
  have hone : s.bindings.get? 1 = some (.column (.notNull .integer)) := by decide +kernel
  exact ⟨⟨_, _, rfl⟩, .bound hzero (.column _), .cast (.bound hone (.column _)) (.column _),
    by decide +kernel, by decide +kernel, by decide +kernel, by decide +kernel⟩

end Session

end QueryTyping
