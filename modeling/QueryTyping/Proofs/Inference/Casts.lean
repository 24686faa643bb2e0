import QueryTyping.Proofs.Inference.Unification

/-!
# What casts combine to

Two types whose casts come down to types that are neither variables nor casts combine without a
look at the bindings: the casts on the left stand around those on the right, and behind all of them
stands what the two have in common (`Chain.combine_casts`). If they have nothing in common, they do
not combine with casts around them either (`Chain.combine_casts_outcome`). Nothing is written on the
way, since no part of such a type is reached through a variable.
-/

namespace QueryTyping

theorem InferredType.casts_append (inputs inputs' : List InferredType) (ty : InferredType) :
    casts (inputs ++ inputs') ty = casts inputs (casts inputs' ty) := by
  induction inputs with
  | nil => rfl
  | cons input inputs ih => rw [List.cons_append, casts, casts, ih]

theorem Bindings.settle_none (unified : Unified) : unified.settle none none = unified := by
  obtain ⟨_ | _, _⟩ := unified <;> rfl

namespace Chain

variable {b : Bindings} {left right : Chain} {e e' m : InferredType}
  {inputs : List InferredType} {outcome : Except TypeError InferredType}

/-! ## One step -/

/-- Two types that are neither variables nor casts combine to what they have in common. -/
theorem exists_combine_of_isEnd (hleft : left.type.IsEnd) (hright : right.type.IsEnd)
    (b : Bindings) :
    ∃ l r, left.combine right b = Unified.ofOption b l r (left.type.meet right.type) := by
  cases left with
  | column root l =>
    cases right with
    | column root r => exact ⟨.column l, .column r, by rw [combine]; rfl⟩
    | oneOf root alternatives => exact ⟨.oneOf alternatives, .column l, by rw [combine]; rfl⟩
    | unbound id => simp [type, InferredType.IsEnd] at hright
    | cast root input result inner => simp [type, InferredType.IsEnd] at hright
  | oneOf root l =>
    cases right with
    | column root r => exact ⟨.oneOf l, .column r, by rw [combine]; rfl⟩
    | oneOf root r => exact ⟨.oneOf l, .oneOf r, by rw [combine]; rfl⟩
    | unbound id => simp [type, InferredType.IsEnd] at hright
    | cast root input result inner => simp [type, InferredType.IsEnd] at hright
  | unbound id => simp [type, InferredType.IsEnd] at hleft
  | cast root input result inner => simp [type, InferredType.IsEnd] at hleft

theorem combine_of_meet (h : left.type.meet right.type = some m) :
    left.combine right b = (.ok m, b) := by
  obtain ⟨hleft, hright⟩ := InferredType.sides_of_meet h
  obtain ⟨l, r, hcombine⟩ := exists_combine_of_isEnd hleft hright b
  rw [hcombine, h]
  rfl

theorem combine_cast_left {root : Option VarId} {input result : InferredType} {inner : Chain}
    (h : ∀ y, right = unbound y → False) :
    (cast root input result inner).combine right b =
      ((inner.combine right.detach b).settle inner.root none).underCast input := by
  rw [combine, Bindings.root_detach_of_not_unbound h]
  exact h

theorem combine_cast_right {root : Option VarId} {input result : InferredType} {inner : Chain}
    (h : ∀ y, left = unbound y → False)
    (h' : ∀ root input result inner, left = cast root input result inner → False) :
    left.combine (cast root input result inner) b =
      ((inner.combine left.detach b).settle inner.root none).underCast input := by
  rw [combine, Bindings.root_detach_of_not_unbound h]
  · exact h
  · exact h'

/-- The root of a chain plays no part in what it is combined to. -/
theorem combine_detach_left (left right : Chain) (b : Bindings) :
    left.detach.combine right b = left.combine right b := by
  cases left with
  | column root ty => cases right <;> simp [combine, type, detach]
  | oneOf root alternatives => cases right <;> simp [combine, type, detach]
  | unbound x => rfl
  | cast root input result inner => cases right <;> simp [combine, type, detach]

theorem combine_detach_right (left right : Chain) (b : Bindings) :
    left.combine right.detach b = left.combine right b := by
  cases right with
  | column root ty => cases left <;> simp [combine, type, detach]
  | oneOf root alternatives => cases left <;> simp [combine, type, detach]
  | unbound x => rfl
  | cast root input result inner => cases left <;> simp [combine, type, detach]

theorem combine_rootAt (id : VarId) : (left.rootAt id).combine right b = left.combine right b := by
  rw [← combine_detach_left, detach_rootAt, combine_detach_left]

/-! ## All casts -/

/-- The chain of a type that is neither a variable nor a cast is neither of them. -/
theorem plain_of_isEnd (b : Bindings) (he : e.IsEnd) :
    (∀ y, b.chain e = unbound y → False) ∧
      ∀ root input result inner, b.chain e = cast root input result inner → False := by
  rcases he with ⟨ty, rfl⟩ | ⟨alternatives, rfl⟩
  · simp
  · simp

theorem type_of_isEnd (b : Bindings) (he : e.IsEnd) : (b.chain e).type = e := by
  rcases he with ⟨ty, rfl⟩ | ⟨alternatives, rfl⟩
  · simp [type]
  · simp [type]

/-- Casts that stand in the type itself are not reached through a variable. -/
theorem root_casts (b : Bindings) (inputs : List InferredType) (he : e.IsEnd) :
    (b.chain (.casts inputs e)).root = none := by
  cases inputs with
  | nil =>
    rcases he with ⟨ty, rfl⟩ | ⟨alternatives, rfl⟩
    · simp [InferredType.casts, root]
    · simp [InferredType.casts, root]
  | cons input inputs => simp [InferredType.casts, root]

theorem casts_ne_unbound (b : Bindings) (inputs : List InferredType) (he : e.IsEnd) :
    ∀ y, b.chain (.casts inputs e) = unbound y → False := by
  cases inputs with
  | nil => exact (plain_of_isEnd b he).1
  | cons input inputs => simp [InferredType.casts]

/-- The casts on the left are put around what is combined behind them. -/
theorem combine_casts_left (he : e.IsEnd) (hright : ∀ y, right = unbound y → False)
    (h : (b.chain e).combine right b = (outcome, b)) :
    (b.chain (.casts inputs e)).combine right b = (outcome.map (.casts inputs), b) := by
  induction inputs with
  | nil =>
    rw [InferredType.casts, h]
    cases outcome <;> rfl
  | cons input inputs ih =>
    rw [InferredType.casts, Bindings.chain_cast, combine_cast_left hright, combine_detach_right, ih,
      root_casts b inputs he, Bindings.settle_none]
    cases outcome <;> rfl

/-- The casts of both sides are put around what the types behind them combine to. Where the right
side has casts it is opened as the left one, so that the two change sides. -/
theorem combine_casts_outcome (inputs inputs' : List InferredType) (he : e.IsEnd) (he' : e'.IsEnd)
    (h : (if inputs' = [] then (b.chain e).combine (b.chain e') b
      else (b.chain e').combine (b.chain e) b) = (outcome, b)) :
    (b.chain (.casts inputs e)).combine (b.chain (.casts inputs' e')) b =
      (outcome.map (.casts (inputs ++ inputs')), b) := by
  have hright : (b.chain e).combine (b.chain (.casts inputs' e')) b =
      (outcome.map (.casts inputs'), b) := by
    cases inputs' with
    | nil =>
      rw [if_pos rfl] at h
      rw [InferredType.casts, h]
      cases outcome <;> rfl
    | cons input inputs' =>
      rw [if_neg (List.cons_ne_nil _ _)] at h
      obtain ⟨hvar, hcast⟩ := plain_of_isEnd b he
      rw [InferredType.casts, Bindings.chain_cast, combine_cast_right hvar hcast,
        combine_detach_right, combine_casts_left he' hvar h, root_casts b inputs' he',
        Bindings.settle_none]
      cases outcome <;> rfl
  rw [combine_casts_left he (casts_ne_unbound b inputs' he') hright]
  cases outcome with
  | error error => rfl
  | ok c => rw [Except.map, Except.map, Except.map, InferredType.casts_append]

theorem combine_casts (inputs inputs' : List InferredType) (he : e.IsEnd) (he' : e'.IsEnd)
    (h : (if inputs' = [] then e.meet e' else e'.meet e) = some m) :
    (b.chain (.casts inputs e)).combine (b.chain (.casts inputs' e')) b =
      (.ok (.casts (inputs ++ inputs') m), b) := by
  have hends : (if inputs' = [] then (b.chain e).combine (b.chain e') b
      else (b.chain e').combine (b.chain e) b) = (.ok m, b) := by
    split at h
    · next hnil =>
      rw [if_pos hnil, combine_of_meet (by rwa [type_of_isEnd b he, type_of_isEnd b he'])]
    · next hcons =>
      rw [if_neg hcons, combine_of_meet (by rwa [type_of_isEnd b he, type_of_isEnd b he'])]
  rw [combine_casts_outcome inputs inputs' he he' hends]
  rfl

end Chain

end QueryTyping
