import QueryTyping.InferredType

/-!
# Meets

Two types that are neither variables nor casts meet in the alternatives that go together. Read as
sets of alternatives, a column type being one alternative, the meet consists of the meets of all
pairs (`InferredType.mem_alternatives_meet`), and it is never empty.
-/

namespace QueryTyping

theorem CoreType.meet_comm (k k' : CoreType) : k.meet k' = k'.meet k := by
  cases k <;> cases k' <;> rfl

theorem CoreType.isSome_meet {k k' : CoreType} (h : k = .any ∨ k' = .any ∨ k = k') :
    (k.meet k').isSome = true := by
  rcases h with rfl | rfl | rfl
  · cases k' <;> rfl
  · cases k <;> rfl
  · cases k <;> rfl

/-- The meet of two core types is each of them that is not `any`. -/
theorem CoreType.eq_of_meet {k k' m : CoreType} (h : k.meet k' = some m) :
    (m = k ∨ k = .any) ∧ (m = k' ∨ k' = .any) := by
  cases k <;> cases k' <;> cases m <;> simp_all [CoreType.meet]

namespace ColumnType

theorem meet_comm (l r : ColumnType) : l.meet r = r.meet l := by
  simp [meet, CoreType.meet_comm l.core, Bool.or_comm l.nullable]

theorem meet_eq_some_iff {l r ty : ColumnType} :
    l.meet r = some ty ↔
      l.core.meet r.core = some ty.core ∧ ty.nullable = (l.nullable || r.nullable) := by
  obtain ⟨nullable, core⟩ := ty
  simp only [meet, Option.map_eq_some_iff, ColumnType.mk.injEq]
  constructor
  · rintro ⟨k, hk, hnullable, rfl⟩
    exact ⟨hk, hnullable.symm⟩
  · rintro ⟨hk, hnullable⟩
    exact ⟨core, hk, hnullable.symm, rfl⟩

/-- If each step adds the elements with a property, so does the whole fold. -/
theorem mem_foldl_iff {α β : Type} {f : List β → α → List β} {y : β} {P : α → Prop}
    (hstep : ∀ found x, y ∈ f found x ↔ y ∈ found ∨ P x) (xs : List α) (found : List β) :
    y ∈ xs.foldl f found ↔ y ∈ found ∨ ∃ x ∈ xs, P x := by
  induction xs generalizing found with
  | nil => simp
  | cons x xs ih =>
    rw [List.foldl_cons, ih, hstep, or_assoc]
    simp only [List.mem_cons, exists_eq_or_imp]

theorem mem_commonAlternatives {left right : List ColumnType} {ty : ColumnType} :
    ty ∈ commonAlternatives left right ↔ ∃ l ∈ left, ∃ r ∈ right, l.meet r = some ty := by
  unfold commonAlternatives
  rw [mem_foldl_iff (P := fun l => ∃ r ∈ right, l.meet r = some ty)]
  · simp
  · intro found l
    refine mem_foldl_iff (P := fun r => l.meet r = some ty) ?_ right found
    intro found r
    cases l.meet r with
    | none => simp
    | some meet =>
      by_cases hmem : meet ∈ found
      · simp only [hmem, if_true, Option.some.injEq]
        refine ⟨Or.inl, ?_⟩
        rintro (h | rfl)
        · exact h
        · exact hmem
      · simp [hmem, eq_comm]

theorem nodup_commonAlternatives (left right : List ColumnType) :
    (commonAlternatives left right).Nodup := by
  unfold commonAlternatives
  refine List.foldlRecOn left _ List.nodup_nil fun found hfound l _ => ?_
  refine List.foldlRecOn right _ hfound fun found hfound r _ => ?_
  split
  · split
    · exact hfound
    · next hnew =>
      refine List.nodup_append.mpr ⟨hfound, List.pairwise_singleton _ _, ?_⟩
      rintro a ha b hb rfl
      exact hnew (List.mem_singleton.mp hb ▸ ha)
  · exact hfound

end ColumnType

namespace InferredType

/-- The column types that a type may be, if it is neither a variable nor a cast. -/
def alternatives : InferredType → List ColumnType
  | .column ty => [ty]
  | .oneOf alternatives => alternatives
  | .cast _ _ => []
  | .var _ => []

/-- Neither a variable nor a cast. -/
def IsEnd (ty : InferredType) : Prop :=
  (∃ column, ty = .column column) ∨ ∃ alternatives, ty = .oneOf alternatives

theorem IsEnd.not_mentions {ty : InferredType} (h : ty.IsEnd) (v : VarId) :
    ty.mentions v = false := by
  rcases h with ⟨column, rfl⟩ | ⟨alternatives, rfl⟩ <;> rfl

/-- The type that two types have in common, neither of them a variable or a cast. -/
def meet : InferredType → InferredType → Option InferredType
  | .column l, .column r => (l.meet r).map .column
  | .oneOf alternatives, .column ty => narrow alternatives [ty]
  | .column ty, .oneOf alternatives => narrow alternatives [ty]
  | .oneOf l, .oneOf r => narrow l r
  | _, _ => none

/-- What is common to two lists of alternatives is a column type or alternatives. -/
theorem narrow_eq_some {left right : List ColumnType} {ty : InferredType}
    (h : narrow left right = some ty) :
    ty.alternatives = ColumnType.commonAlternatives left right ∧ ty.alternatives ≠ [] := by
  unfold narrow at h
  split at h
  · cases h
  · next ty' heq =>
    cases h
    exact ⟨heq.symm, List.cons_ne_nil _ _⟩
  · next hnil _ =>
    cases h
    exact ⟨rfl, hnil⟩

/-- There are several alternatives, no two alike, or there is a column type. -/
theorem alternatives_of_narrow {left right : List ColumnType} {ty : InferredType}
    (h : narrow left right = some ty) :
    ty.alternatives.Nodup ∧ ((∃ column, ty = .column column) ↔ ty.alternatives.length = 1) := by
  refine ⟨(narrow_eq_some h).1 ▸ ColumnType.nodup_commonAlternatives left right, ?_⟩
  unfold narrow at h
  split at h
  · cases h
  · cases h
    exact ⟨fun _ => rfl, fun _ => ⟨_, rfl⟩⟩
  · next hseveral =>
    cases h
    constructor
    · rintro ⟨column, hcolumn⟩
      cases hcolumn
    · intro hlength
      obtain ⟨column, hcolumn⟩ := List.length_eq_one_iff.mp hlength
      exact (hseveral column hcolumn).elim

theorem meet_alternatives_ne_nil {l r ty : InferredType} (h : l.meet r = some ty) :
    ty.alternatives ≠ [] := by
  unfold meet at h
  split at h
  · obtain ⟨m, -, rfl⟩ := Option.map_eq_some_iff.mp h
    exact List.cons_ne_nil _ _
  · exact (narrow_eq_some h).2
  · exact (narrow_eq_some h).2
  · exact (narrow_eq_some h).2
  · cases h

/-- The alternatives of a meet are the meets of the alternatives. -/
theorem mem_alternatives_meet {l r ty : InferredType} {m : ColumnType} (h : l.meet r = some ty) :
    m ∈ ty.alternatives ↔ ∃ a ∈ l.alternatives, ∃ a' ∈ r.alternatives, a.meet a' = some m := by
  unfold meet at h
  split at h
  · obtain ⟨m', hm', rfl⟩ := Option.map_eq_some_iff.mp h
    simp [alternatives, hm', eq_comm]
  · rw [(narrow_eq_some h).1, ColumnType.mem_commonAlternatives]
    rfl
  · next ty' alternatives =>
    rw [(narrow_eq_some h).1, ColumnType.mem_commonAlternatives]
    simp [InferredType.alternatives, ColumnType.meet_comm ty']
  · rw [(narrow_eq_some h).1, ColumnType.mem_commonAlternatives]
    rfl
  · cases h

theorem alternatives_of_meet {l r ty : InferredType} (h : l.meet r = some ty) :
    ty.alternatives.Nodup ∧ ((∃ column, ty = .column column) ↔ ty.alternatives.length = 1) := by
  unfold meet at h
  split at h
  · obtain ⟨m, -, rfl⟩ := Option.map_eq_some_iff.mp h
    exact ⟨List.pairwise_singleton _ m, fun _ => rfl, fun _ => ⟨m, rfl⟩⟩
  · exact alternatives_of_narrow h
  · exact alternatives_of_narrow h
  · exact alternatives_of_narrow h
  · cases h

theorem exists_narrow {left right : List ColumnType} {a a' m : ColumnType} (ha : a ∈ left)
    (ha' : a' ∈ right) (h : a.meet a' = some m) : ∃ ty, narrow left right = some ty := by
  have hmem : m ∈ ColumnType.commonAlternatives left right :=
    ColumnType.mem_commonAlternatives.mpr ⟨a, ha, a', ha', h⟩
  rw [narrow]
  split
  · next hnil => simp [hnil] at hmem
  · exact ⟨_, rfl⟩
  · exact ⟨_, rfl⟩

/-- Types of which two alternatives go together meet. -/
theorem exists_meet {l r : InferredType} {a a' m : ColumnType} (ha : a ∈ l.alternatives)
    (ha' : a' ∈ r.alternatives) (h : a.meet a' = some m) : ∃ ty, l.meet r = some ty := by
  cases l with
  | column left =>
    obtain rfl := List.mem_singleton.mp ha
    cases r with
    | column right =>
      obtain rfl := List.mem_singleton.mp ha'
      exact ⟨.column m, by rw [meet, h]; rfl⟩
    | oneOf right => exact exists_narrow ha' ha (by rw [ColumnType.meet_comm, h])
    | cast input result => cases ha'
    | var id => cases ha'
  | oneOf left =>
    cases r with
    | column right => exact exists_narrow ha ha' h
    | oneOf right => exact exists_narrow ha ha' h
    | cast input result => cases ha'
    | var id => cases ha'
  | cast input result => cases ha
  | var id => cases ha

theorem sides_of_meet {l r ty : InferredType} (h : l.meet r = some ty) : l.IsEnd ∧ r.IsEnd := by
  unfold meet at h
  split at h
  · exact ⟨Or.inl ⟨_, rfl⟩, Or.inl ⟨_, rfl⟩⟩
  · exact ⟨Or.inr ⟨_, rfl⟩, Or.inl ⟨_, rfl⟩⟩
  · exact ⟨Or.inl ⟨_, rfl⟩, Or.inr ⟨_, rfl⟩⟩
  · exact ⟨Or.inr ⟨_, rfl⟩, Or.inr ⟨_, rfl⟩⟩
  · cases h

theorem isEnd_of_meet {l r ty : InferredType} (h : l.meet r = some ty) : ty.IsEnd := by
  have hne := meet_alternatives_ne_nil h
  cases ty with
  | column column => exact Or.inl ⟨column, rfl⟩
  | oneOf alternatives => exact Or.inr ⟨alternatives, rfl⟩
  | cast input result => exact (hne rfl).elim
  | var id => exact (hne rfl).elim

end InferredType

end QueryTyping
