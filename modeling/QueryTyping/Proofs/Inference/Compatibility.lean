import QueryTyping.Proofs.Inference.Alternatives
import QueryTyping.Proofs.Inference.Casts

/-!
# Which types go together

Take two types that come, behind the casts that stand in them, to column types or alternatives, with
no variable on the way. Whether they can be unified is a question about these alternatives alone:
some two of them must be compatible (`ColumnType.Compatible`). Then the casts of both types are
kept, and behind them stand the meets of all compatible pairs, each once
(`Inference.unify_iff_compatible`). The bindings play no part in this, not even those of the
variables in the inputs of the casts, and none is written.
-/

namespace QueryTyping

/-! ## Column types -/

namespace ColumnType

/-- The two store the same kind of value, or one of them any kind. -/
def Compatible (l r : ColumnType) : Prop := l.core = r.core ∨ l.core = .any ∨ r.core = .any

/-- The type of a value of two compatible types: the core type is the one that is known, and the
value may be null if one of the types says so. -/
def both (l r : ColumnType) : ColumnType :=
  ⟨l.nullable || r.nullable, if l.core = .any then r.core else l.core⟩

theorem meet_eq_some_iff_compatible {l r m : ColumnType} :
    l.meet r = some m ↔ l.Compatible r ∧ m = l.both r := by
  obtain ⟨nullable, core⟩ := l
  obtain ⟨nullable', core'⟩ := r
  cases core <;> cases core' <;> simp [meet, CoreType.meet, Compatible, both, eq_comm]

theorem meets_nonempty_iff {A B : Set ColumnType} :
    (meets A B).Nonempty ↔ ∃ a ∈ A, ∃ b ∈ B, a.Compatible b := by
  constructor
  · rintro ⟨m, a, ha, b, hb, hm⟩
    exact ⟨a, ha, b, hb, (meet_eq_some_iff_compatible.mp hm).1⟩
  · rintro ⟨a, ha, b, hb, hcompatible⟩
    exact ⟨a.both b, a, ha, b, hb, meet_eq_some_iff_compatible.mpr ⟨hcompatible, rfl⟩⟩

theorem mem_meets_iff {A B : Set ColumnType} {m : ColumnType} :
    m ∈ meets A B ↔ ∃ a ∈ A, ∃ b ∈ B, a.Compatible b ∧ m = a.both b := by
  simp only [meets, Set.mem_ofPred_eq, meet_eq_some_iff_compatible]

end ColumnType

/-! ## Casts that stand in a type -/

namespace InferredType

/-- The inputs of the casts that stand in the type, outermost first. -/
def castInputs : InferredType → List InferredType
  | cast input result => input :: result.castInputs
  | _ => []

/-- What stands behind the casts in the type. -/
def uncast : InferredType → InferredType
  | cast _ result => result.uncast
  | ty => ty

theorem casts_uncast (ty : InferredType) : casts ty.castInputs ty.uncast = ty := by
  induction ty with
  | column ty => rfl
  | oneOf alternatives => rfl
  | cast input result _ ih => rw [castInputs, uncast, casts, ih]
  | var id => rfl

theorem uncast_of_isEnd {e : InferredType} (he : e.IsEnd) : e.castInputs = [] ∧ e.uncast = e := by
  rcases he with ⟨ty, rfl⟩ | ⟨alternatives, rfl⟩
  · exact ⟨rfl, rfl⟩
  · exact ⟨rfl, rfl⟩

theorem castInputs_casts (inputs : List InferredType) {e : InferredType} (he : e.IsEnd) :
    (casts inputs e).castInputs = inputs := by
  induction inputs with
  | nil => exact (uncast_of_isEnd he).1
  | cons input inputs ih => rw [casts, castInputs, ih]

theorem uncast_casts (inputs : List InferredType) {e : InferredType} (he : e.IsEnd) :
    (casts inputs e).uncast = e := by
  induction inputs with
  | nil => exact (uncast_of_isEnd he).2
  | cons input inputs ih => rw [casts, uncast, ih]

/-- Two types have something in common, whichever of them comes first, if two of their alternatives
are compatible. -/
theorem isSome_common_iff {e f : InferredType} {common : Option InferredType}
    (h : common = e.meet f ∨ common = f.meet e) :
    common.isSome = true ↔ ∃ a ∈ e.alternatives, ∃ a' ∈ f.alternatives, a.Compatible a' := by
  refine Iff.trans ?_ (ColumnType.meets_nonempty_iff (A := e.options) (B := f.options))
  rw [Option.isSome_iff_exists]
  rcases h with rfl | rfl
  · exact exists_meet_iff
  · rw [ColumnType.meets_comm]
    exact exists_meet_iff

/-- What two types have in common is, in either order of the two, one column type or several, each
once, and they are the meets of the alternatives. -/
theorem alternatives_of_common {e f m : InferredType}
    (h : e.meet f = some m ∨ f.meet e = some m) :
    m.IsEnd ∧ m.alternatives.Nodup ∧ m.options = ColumnType.meets e.options f.options ∧
      ((∃ column, m = .column column) ↔ m.alternatives.length = 1) := by
  rcases h with h | h
  · obtain ⟨hnodup, hcolumn⟩ := alternatives_of_meet h
    exact ⟨isEnd_of_meet h, hnodup, options_meet h, hcolumn⟩
  · obtain ⟨hnodup, hcolumn⟩ := alternatives_of_meet h
    rw [ColumnType.meets_comm]
    exact ⟨isEnd_of_meet h, hnodup, options_meet h, hcolumn⟩

end InferredType

/-! ## Unification -/

namespace Bindings

variable {e f : InferredType}

theorem ofOption_eq (b : Bindings) (l r : InferredType) (common : Option InferredType) :
    Unified.ofOption b l r common = ((Unified.ofOption b l r common).1, b) := by
  cases common <;> rfl

/-- Both types are combined without a look at the bindings, and there is no root to write to. Which
of the two comes first where they meet depends on the casts. -/
theorem exists_unify_casts (b : Bindings) (inputs inputs' : List InferredType) (he : e.IsEnd)
    (hf : f.IsEnd) :
    ∃ common l r, (common = e.meet f ∨ common = f.meet e) ∧
      b.unify (.casts inputs e) (.casts inputs' f) =
        ((Unified.ofOption b l r common).1.map (.casts (inputs ++ inputs')), b) := by
  have htype := Chain.type_of_isEnd b he
  have htype' := Chain.type_of_isEnd b hf
  unfold Bindings.unify Chain.unify
  rw [Chain.root_casts b inputs he, Chain.root_casts b inputs' hf, settle_none]
  by_cases hnil : inputs' = []
  · obtain ⟨l, r, hcombine⟩ :=
      Chain.exists_combine_of_isEnd (htype.symm ▸ he) (htype'.symm ▸ hf) b
    rw [htype, htype', ofOption_eq] at hcombine
    refine ⟨e.meet f, l, r, Or.inl rfl, Chain.combine_casts_outcome inputs inputs' he hf ?_⟩
    rw [if_pos hnil, hcombine]
  · obtain ⟨l, r, hcombine⟩ :=
      Chain.exists_combine_of_isEnd (htype'.symm ▸ hf) (htype.symm ▸ he) b
    rw [htype, htype', ofOption_eq] at hcombine
    refine ⟨f.meet e, l, r, Or.inr rfl, Chain.combine_casts_outcome inputs inputs' he hf ?_⟩
    rw [if_neg hnil, hcombine]

end Bindings

namespace Inference

open InferredType (alternatives_of_common casts_uncast castInputs_casts uncast_casts)

variable {l r : InferredType}

/-- Where two types come, behind the casts that stand in them, to column types or alternatives, they
can be unified exactly if two of these are compatible. The result has the casts of the first type
around those of the second, and behind them what all compatible pairs come to, each once: as a
column type if that is one. The inference is as it was, whether they can be unified or not. -/
theorem unify_iff_compatible (inference : Inference) (hl : l.uncast.IsEnd) (hr : r.uncast.IsEnd) :
    ((inference.unify l r).1.isOk = true ↔
      ∃ a ∈ l.uncast.alternatives, ∃ a' ∈ r.uncast.alternatives, a.Compatible a') ∧
    (∀ c, (inference.unify l r).1 = .ok c →
      c.castInputs = l.castInputs ++ r.castInputs ∧ c.uncast.IsEnd ∧
      (∀ m, m ∈ c.uncast.alternatives ↔
        ∃ a ∈ l.uncast.alternatives, ∃ a' ∈ r.uncast.alternatives,
          a.Compatible a' ∧ m = a.both a') ∧
      c.uncast.alternatives.Nodup ∧
      ((∃ m, c.uncast = .column m) ↔ c.uncast.alternatives.length = 1)) ∧
    (inference.unify l r).2 = inference := by
  obtain ⟨common, x, y, hcommon, hunify⟩ :=
    inference.bindings.exists_unify_casts l.castInputs r.castInputs hl hr
  rw [casts_uncast, casts_uncast] at hunify
  have hafter : inference.unify l r =
      ((Unified.ofOption inference.bindings x y common).1.map
        (.casts (l.castInputs ++ r.castInputs)), inference) := by
    rw [Inference.unify, hunify]
  rw [hafter]
  refine ⟨?_, fun c hc => ?_, rfl⟩
  · rw [← InferredType.isSome_common_iff hcommon]
    cases common with
    | none => rfl
    | some m => rfl
  · cases common with
    | none => cases hc
    | some m =>
      obtain rfl := Except.ok.inj hc
      obtain ⟨hend, hnodup, hoptions, hcolumn⟩ :=
        alternatives_of_common (hcommon.imp Eq.symm Eq.symm)
      rw [castInputs_casts _ hend, uncast_casts _ hend]
      refine ⟨rfl, hend, fun m' => ?_, hnodup, hcolumn⟩
      show m' ∈ m.options ↔ _
      rw [hoptions]
      exact ColumnType.mem_meets_iff

/-- A cast of one variable to an integer or a float, and two casts around a float or something that
is not known. Of the four pairs one is not compatible, and the other three come to different column
types. -/
theorem unify_iff_compatible_of_three_casts :
    let inference : Inference := ⟨Bindings.empty.insert 0 (.column (.orNull .blob)), []⟩
    let l := InferredType.cast (.var 0) (.oneOf [.notNull .integer, .notNull .float])
    let r := InferredType.cast (.var 1) (.cast (.var 0) (.oneOf [.notNull .float, .unknown]))
    let found : List ColumnType := [.notNull .float, .orNull .integer, .orNull .float]
    l.uncast.IsEnd ∧ r.uncast.IsEnd ∧
      inference.unify l r =
        (.ok (.cast (.var 0) (.cast (.var 1) (.cast (.var 0) (.oneOf found)))), inference) ∧
      (∃ a ∈ l.uncast.alternatives, ∃ a' ∈ r.uncast.alternatives, a.Compatible a') ∧
      found.Nodup ∧
      ∀ m, m ∈ found ↔ ∃ a ∈ l.uncast.alternatives, ∃ a' ∈ r.uncast.alternatives,
        a.Compatible a' ∧ m = a.both a' := by
  intro inference l r found
  have hl : l.uncast.IsEnd := Or.inr ⟨_, rfl⟩
  have hr : r.uncast.IsEnd := Or.inr ⟨_, rfl⟩
  have hok : (inference.unify l r).1 =
      .ok (.cast (.var 0) (.cast (.var 1) (.cast (.var 0) (.oneOf found)))) := by
    decide +kernel
  obtain ⟨hiff, hresult, hkept⟩ := unify_iff_compatible inference hl hr
  obtain ⟨-, -, hmeets, hnodup, -⟩ := hresult _ hok
  exact ⟨hl, hr, Prod.ext hok hkept, hiff.mp (by rw [hok]; rfl), hnodup, hmeets⟩

end Inference

end QueryTyping
