import QueryTyping.Proofs.Inference.Frozen
import QueryTyping.Proofs.Inference.Probes

/-!
# When two variables stay equal

Two variables that come to the same variable stay equal, and so do two that cannot change any more.
All others can be told apart by further unifications: one of the two does not lead to the other, so
it can be given a chain of its own (`Session.exists_own_chain`), after which it can be made null for
good, or its core type be narrowed, without the other taking notice.

So variables that were unified stay equal only in these two cases
(`Session.equal_ever_after_iff`). A copy of the combined type does not suffice.
-/

namespace QueryTyping

namespace Bindings

variable {b b' b'' : Bindings} {x y z o v : VarId} {t m : InferredType} {core : CoreType}

/-- No variable that the type leads to has come to a list of alternatives without any. -/
def NeverEmpty (b : Bindings) (t : InferredType) : Prop :=
  ∀ v, b.Leads t v → b.ending (.var v) ≠ .oneOf []

/-! ## Endings that a column type goes with -/

theorem ending_ne_cast (b : Bindings) (t input result : InferredType) :
    b.ending t ≠ .cast input result := by
  unfold ending
  induction b.chain t with
  | column root ty => simp [Chain.ending]
  | oneOf root alternatives => simp [Chain.ending]
  | unbound id => simp [Chain.ending]
  | cast root input result inner ih => exact ih

/-- An ending is a variable or has alternatives. -/
theorem ending_cases (h : b.ending t ≠ .oneOf []) :
    (∃ x, b.ending t = .var x) ∨ (b.ending t).alternatives ≠ [] := by
  cases he : b.ending t with
  | column ty => exact Or.inr (List.cons_ne_nil _ _)
  | oneOf alternatives =>
    refine Or.inr fun hnil => h ?_
    rw [he, show alternatives = [] from hnil]
  | cast input result => exact (ending_ne_cast b t input result he).elim
  | var x => exact Or.inl ⟨x, rfl⟩

theorem exists_meetEnding {e : InferredType} (ty : ColumnType)
    (h : (∃ x, e = .var x) ∨
      ∃ a ∈ e.alternatives, a.core = .any ∨ ty.core = .any ∨ a.core = ty.core) :
    ∃ m, MeetEnding e (.column ty) m := by
  rcases h with ⟨x, rfl⟩ | ⟨a, ha, hcore⟩
  · exact ⟨_, .left⟩
  · have hsome : (a.meet ty).isSome = true := by
      rw [ColumnType.meet, Option.isSome_map]
      exact CoreType.isSome_meet hcore
    obtain ⟨meet, hmeet⟩ := Option.isSome_iff_exists.mp hsome
    have hty : ty ∈ (InferredType.column ty).alternatives := List.mem_singleton_self ty
    obtain ⟨m, hm⟩ := InferredType.exists_meet ha hty hmeet
    exact ⟨m, .meet hm⟩

/-- A column type without core type goes with every ending that has alternatives. -/
theorem exists_meetEnding_any (h : b.ending t ≠ .oneOf []) :
    ∃ m, MeetEnding (b.ending t) (.column (.notNull .any)) m := by
  refine exists_meetEnding _ ((ending_cases h).imp_right fun hne => ?_)
  obtain ⟨a, ha⟩ := List.exists_mem_of_ne_nil _ hne
  exact ⟨a, ha, Or.inr (Or.inl rfl)⟩

theorem MeetEnding.ne_empty {e : InferredType} {ty : ColumnType}
    (h : MeetEnding e (.column ty) m) : m ≠ .oneOf [] := by
  rintro rfl
  rcases h.column with ⟨_, _, hm⟩ | ⟨hmeet, -⟩
  · cases hm
  · exact InferredType.meet_alternatives_ne_nil hmeet rfl

/-- With a known core type an ending meets in alternatives that have it. -/
theorem MeetEnding.core_eq {e : InferredType} {ty : ColumnType} (h : MeetEnding e (.column ty) m)
    (hcore : ty.core ≠ .any) : m.alternatives ≠ [] ∧ ∀ a ∈ m.alternatives, a.core = ty.core := by
  rcases h.column with ⟨-, -, rfl⟩ | ⟨hmeet, -⟩
  · simp [InferredType.alternatives]
  · refine ⟨InferredType.meet_alternatives_ne_nil hmeet, fun a ha => ?_⟩
    obtain ⟨a', -, ty', hty', hmeet'⟩ := (InferredType.mem_alternatives_meet hmeet).mp ha
    rw [InferredType.alternatives, List.mem_singleton] at hty'
    subst hty'
    obtain ⟨-, hsame | hany⟩ := CoreType.eq_of_meet (ColumnType.meet_eq_some_iff.mp hmeet').1
    · exact hsame
    · exact (hcore hany).elim

/-- What has one core type after it met any core type had it before. -/
theorem MeetEnding.core_eq_of_any {e : InferredType}
    (h : MeetEnding e (.column (.notNull .any)) m) (hcore : core ≠ .any)
    (hne : m.alternatives ≠ []) (hall : ∀ a ∈ m.alternatives, a.core = core) :
    e.alternatives ≠ [] ∧ ∀ a ∈ e.alternatives, a.core = core := by
  obtain ⟨ty, hty⟩ := List.exists_mem_of_ne_nil _ hne
  rcases h.column with ⟨-, -, rfl⟩ | ⟨hmeet, -⟩
  · exact (hcore (hall (.notNull .any) (List.mem_singleton_self _)).symm).elim
  · obtain ⟨a, ha, -⟩ := (InferredType.mem_alternatives_meet hmeet).mp hty
    refine ⟨List.ne_nil_of_mem ha, fun a ha => ?_⟩
    have hmem : (⟨a.nullable, a.core⟩ : ColumnType) ∈ m.alternatives := by
      refine (InferredType.mem_alternatives_meet hmeet).mpr
        ⟨a, ha, .notNull .any, List.mem_singleton_self _, ?_⟩
      rw [ColumnType.meet_eq_some_iff]
      refine ⟨?_, (Bool.or_false a.nullable).symm⟩
      simp only [ColumnType.notNull]
      cases a.core <;> rfl
    exact hall _ hmem

/-- A type without a fixed core type can be narrowed to one that differs from a given one. -/
theorem Acyclic.exists_other_core (hb : b.Acyclic) (hempty : b.ending t ≠ .oneOf [])
    (h : ¬b.FixedTo t core) :
    ∃ k m, k ≠ .any ∧ k ≠ core ∧ MeetEnding (b.ending t) (.column (.notNull k)) m := by
  have hother : ∃ k : CoreType, k ≠ .any ∧ k ≠ core := by
    by_cases hcore : core = .integer
    · exact ⟨.float, by decide, by rw [hcore]; decide⟩
    · exact ⟨.integer, by decide, fun h => hcore h.symm⟩
  obtain ⟨k, hk, hne⟩ := hother
  rcases ending_cases hempty with hvar | hsome
  · obtain ⟨m, hm⟩ := exists_meetEnding (.notNull k) (Or.inl hvar)
    exact ⟨k, m, hk, hne, hm⟩
  by_cases hany : ∃ a ∈ (b.ending t).alternatives, a.core = .any
  · obtain ⟨a, ha, hcore⟩ := hany
    obtain ⟨m, hm⟩ := exists_meetEnding (.notNull k) (Or.inr ⟨a, ha, Or.inl hcore⟩)
    exact ⟨k, m, hk, hne, hm⟩
  -- otherwise one of the alternatives has another core type
  have hdiffers : ∃ a ∈ (b.ending t).alternatives, a.core ≠ core := by
    by_contra hall
    push Not at hall
    obtain ⟨a, ha⟩ := List.exists_mem_of_ne_nil _ hsome
    exact h (hb.fixedTo_iff.mpr ⟨fun hcore => hany ⟨a, ha, (hall a ha).trans hcore⟩, hsome, hall⟩)
  obtain ⟨a, ha, hdiffers⟩ := hdiffers
  obtain ⟨m, hm⟩ := exists_meetEnding (.notNull a.core) (Or.inr ⟨a, ha, Or.inr (Or.inr rfl)⟩)
  exact ⟨a.core, m, fun hcore => hany ⟨a, ha, hcore⟩, hdiffers, hm⟩

/-! ## Casts of what is not null -/

/-- Later bindings in which variables have got casts, but nothing that is null for good and no list
without alternatives. -/
structure Wraps (b b' : Bindings) : Prop where
  acyclic : b'.Acyclic
  kept : ∀ t, b.inputs t ⊆ b'.inputs t
  pinnedNull : ∀ t, b'.PinnedNull t → b.PinnedNull t
  empty : ∀ t, b'.ending t = .oneOf [] → b.ending t = .oneOf []
  leads : ∀ t v, b'.Leads t v → b.Leads t v

theorem Wraps.refl (hb : b.Acyclic) : b.Wraps b :=
  ⟨hb, fun _ => List.Subset.refl _, fun _ => id, fun _ => id, fun _ _ => id⟩

theorem Wraps.trans (h : b.Wraps b') (h' : b'.Wraps b'') : b.Wraps b'' where
  acyclic := h'.acyclic
  kept := fun t => List.Subset.trans (h.kept t) (h'.kept t)
  pinnedNull := fun t ht => h.pinnedNull t (h'.pinnedNull t ht)
  empty := fun t ht => h.empty t (h'.empty t ht)
  leads := fun t v hv => h.leads t v (h'.leads t v hv)

theorem Wraps.neverEmpty (h : b.Wraps b') (ht : b.NeverEmpty t) : b'.NeverEmpty t :=
  fun v hv hempty => ht v (h.leads t v hv) (h.empty _ hempty)

section Probed

variable {written : List VarId} {inputs : List ColumnType} {ty : ColumnType} {e : InferredType}
  (hb : b.Acyclic) (hb' : b'.Acyclic) (h : Probed b b' written inputs m)
  (hm : MeetEnding e (.column ty) m)
include hb hb' h hm

theorem Probed.empty (ht : b'.ending t = .oneOf []) : b.ending t = .oneOf [] := by
  rcases h.reading hb hb' hm.isEnd t with ⟨-, hending⟩ | ⟨-, hending⟩
  · exact hending ▸ ht
  · exact (hm.ne_empty (hending ▸ ht)).elim

/-- A probe whose casts are not null makes nothing null for good. -/
theorem Probed.pinnedNull (hinputs : ∀ ty ∈ inputs, ty.nullable = false) (ht : b'.PinnedNull t) :
    b.PinnedNull t := by
  induction ht with
  | column h => exact .column h
  | oneOf h => exact .oneOf h
  | @input t input hinput _ ih =>
    have hmem : input ∈ b.inputs t ∨ input ∈ inputs.map .column := by
      rcases h.reading hb hb' hm.isEnd t with ⟨hsame, -⟩ | ⟨hnew, -⟩
      · exact Or.inl (hsame ▸ hinput)
      · exact List.mem_append.mp (hnew ▸ hinput)
    rcases hmem with hmem | hmem
    · exact .input hmem ih
    · obtain ⟨ty, hty, rfl⟩ := List.mem_map.mp hmem
      exact (not_pinnedNull_column (hinputs ty hty) ih).elim

theorem Probed.wraps (hinputs : ∀ ty ∈ inputs, ty.nullable = false) : b.Wraps b' where
  acyclic := hb'
  kept := fun t => by
    rcases h.reading hb hb' hm.isEnd t with ⟨hsame, -⟩ | ⟨hnew, -⟩
    · rw [hsame]
      exact List.Subset.refl _
    · rw [hnew]
      exact List.subset_append_left _ _
  pinnedNull := fun t => h.pinnedNull hb hb' hm hinputs
  empty := fun t => h.empty hb hb' hm
  leads := fun t v => h.leads hb hm.isEnd

end Probed

end Bindings

namespace Session

variable {s : Session} {t m : InferredType} {v z o : VarId}

theorem keepsLinks_run (hb : s.bindings.Acyclic) (calls : List Call) :
    (s.run calls).bindings.Acyclic ∧ s.bindings.KeepsLinks (s.run calls).bindings :=
  run_induction (P := fun b => s.bindings.KeepsLinks b)
    (fun _ _ _ _ _ hb hkept hunify => hkept.trans (hb.keepsLinks_unify hunify)) hb
    (fun _ _ h => h) calls

theorem pinnedNull_run (hb : s.bindings.Acyclic) (h : s.bindings.PinnedNull t)
    (calls : List Call) : (s.run calls).bindings.PinnedNull t :=
  (run_induction (P := fun b => b.PinnedNull t)
    (fun _ _ _ _ _ hb h hunify => h.unify hb hunify) hb h calls).2

/-! ## Probing a variable -/

section Probe

variable (hb : s.bindings.Acyclic) (inputs : List ColumnType) {ty : ColumnType}
  (hm : Bindings.MeetEnding (s.bindings.ending (.var v)) (.column ty) m)
include hb hm

theorem run_probe :
    (s.run [.unify (.var v) (.probe inputs ty)]).bindings.Acyclic ∧
      s.bindings.Probed (s.run [.unify (.var v) (.probe inputs ty)]).bindings
        (s.bindings.roots (.var v)) inputs m := by
  obtain ⟨b', hunify, hprobed⟩ := hb.unify_probe inputs hm
  have hrun : (s.run [.unify (.var v) (.probe inputs ty)]).bindings = b' := by
    simp [Session.call, Inference.unify, hunify]
  rw [hrun]
  exact ⟨hb.of_unify hunify, hprobed⟩

/-- The variable that was probed has the casts of the probe and the meet. -/
theorem reading_run_probe :
    (s.run [.unify (.var v) (.probe inputs ty)]).bindings.inputs (.var v) =
        s.bindings.inputs (.var v) ++ inputs.map .column ∧
      (s.run [.unify (.var v) (.probe inputs ty)]).bindings.ending (.var v) = m := by
  obtain ⟨hb', hprobed⟩ := run_probe hb inputs hm
  obtain ⟨x, hx⟩ := Bindings.exists_root_var s.bindings v
  have hget := hprobed.get?_written x (Bindings.mem_roots_of_root hx)
  have hchain := (keepsLinks_run hb _).2.chain_eq hb hb' hx
  have hold : s.bindings.inputs (.var x) = s.bindings.inputs (.var v) := by
    rw [Bindings.inputs, hb.chain_root hx, Bindings.inputs]
  obtain ⟨hinputs, hending, -⟩ := Bindings.reading_of_isEnd
    (s.run [.unify (.var v) (.probe inputs ty)]).bindings hm.isEnd
  rw [Bindings.inputs, Bindings.ending, hchain, ← Bindings.inputs, ← Bindings.ending,
    hb'.inputs_bound hget, hb'.ending_bound hget, Bindings.inputs_casts, Bindings.ending_casts,
    hinputs, hending, hold, List.append_nil]
  exact ⟨rfl, rfl⟩

end Probe

/-! ## Making a variable not null -/

theorem exists_wraps_var (hb : s.bindings.Acyclic) (v : VarId) :
    ∃ calls, s.bindings.Wraps (s.run calls).bindings ∧
      (s.bindings.ending (.var v) ≠ .oneOf [] →
        (s.run calls).bindings.inputs (.var v) ≠ []) := by
  by_cases hempty : s.bindings.ending (.var v) = .oneOf []
  · exact ⟨[], Bindings.Wraps.refl hb, fun h => (h hempty).elim⟩
  · obtain ⟨m, hm⟩ := Bindings.exists_meetEnding_any hempty
    obtain ⟨hb', hprobed⟩ := run_probe hb [.notNull .any] hm
    refine ⟨_, hprobed.wraps hb hb' hm (by simp [ColumnType.notNull]), fun _ => ?_⟩
    rw [(reading_run_probe hb _ hm).1]
    simp

/-- All variables that are listed get casts, one after the other. -/
theorem exists_wraps (hb : s.bindings.Acyclic) (vs : List VarId) :
    ∃ calls, s.bindings.Wraps (s.run calls).bindings ∧
      ∀ v ∈ vs, s.bindings.ending (.var v) ≠ .oneOf [] →
        (s.run calls).bindings.inputs (.var v) ≠ [] := by
  induction vs with
  | nil => exact ⟨[], Bindings.Wraps.refl hb, by simp⟩
  | cons v vs ih =>
    obtain ⟨calls, hwraps, hcasts⟩ := ih
    obtain ⟨calls', hwraps', hcast⟩ := exists_wraps_var hwraps.acyclic v
    refine ⟨calls ++ calls', ?_⟩
    rw [run_append]
    refine ⟨hwraps.trans hwraps', fun w hw hne => ?_⟩
    rcases List.mem_cons.mp hw with rfl | hw
    · exact hcast fun hempty => hne (hwraps.empty _ hempty)
    · obtain ⟨input, hinput⟩ := List.exists_mem_of_ne_nil _ (hcasts w hw hne)
      exact List.ne_nil_of_mem (hwraps'.kept _ hinput)

/-- What is not null for good can be made not null. -/
theorem exists_not_null (hb : s.bindings.Acyclic) (hempty : s.bindings.NeverEmpty t)
    (h : ¬s.bindings.PinnedNull t) :
    ∃ calls, ((s.run calls).inference.concrete t).nullable = false := by
  -- there are finitely many variables, and each of them is given a cast
  obtain ⟨vs, -, hvs⟩ := Finite.exists_univ_list VarId
  obtain ⟨calls, hwraps, hcasts⟩ := exists_wraps hb vs
  refine ⟨calls, hwraps.acyclic.not_nullable (fun v hv => ?_) fun hp => h (hwraps.pinnedNull t hp)⟩
  exact hcasts v (hvs v) (hempty v (hwraps.leads t v hv))

/-! ## A variable with a chain of its own -/

/-- A variable that is its own root gets a chain that it shares with no other variable. -/
theorem exists_own_chain (hb : s.bindings.Acyclic) (hz : s.bindings.root (.var z) = some z)
    (hempty : s.bindings.ending (.var z) ≠ .oneOf []) :
    ∃ calls, s.bindings.Wraps (s.run calls).bindings ∧
      (s.run calls).bindings.roots (.var z) = [z] ∧
      Bindings.MeetEnding (s.bindings.ending (.var z)) (.column (.notNull .any))
        ((s.run calls).bindings.ending (.var z)) := by
  obtain ⟨m, hm⟩ := Bindings.exists_meetEnding_any hempty
  obtain ⟨hb', hprobed⟩ := run_probe hb [.notNull .any] hm
  have hget := hprobed.get?_written z (Bindings.mem_roots_of_root hz)
  refine ⟨_, hprobed.wraps hb hb' hm (by simp [ColumnType.notNull]), ?_, ?_⟩
  · rw [Bindings.roots, hb'.chain_bound hget, Chain.roots_rootAt_of_root_eq_none, ← Bindings.roots,
      Bindings.roots_casts, (Bindings.reading_of_isEnd _ hm.isEnd).2.2]
    rw [← Bindings.root]
    cases s.bindings.inputs (.var z) <;> simp [InferredType.casts, Bindings.root, Chain.root]
  · rw [(reading_run_probe hb _ hm).2]
    exact hm

/-- Probing a variable with a chain of its own changes nothing for those that do not lead to it. -/
theorem agreeFrom_run_probe (hb : s.bindings.Acyclic) (inputs : List ColumnType) {ty : ColumnType}
    (hm : Bindings.MeetEnding (s.bindings.ending (.var z)) (.column ty) m)
    (hroots : s.bindings.roots (.var z) = [z]) (ht : ¬s.bindings.Leads t z) :
    Bindings.AgreeFrom s.bindings (s.run [.unify (.var z) (.probe inputs ty)]).bindings t ∧
      Bindings.AgreeFrom (s.run [.unify (.var z) (.probe inputs ty)]).bindings s.bindings t := by
  obtain ⟨-, hprobed⟩ := run_probe hb inputs hm
  rw [hroots] at hprobed
  constructor
  · intro v hv
    refine hprobed.get?_others v fun hz => ht ?_
    rwa [← List.mem_singleton.mp hz]
  · intro v hv
    refine (hprobed.get?_others v fun hz => ht ?_).symm
    rw [← List.mem_singleton.mp hz]
    exact hprobed.leads hb hm.isEnd hv

theorem fixedTo_run (hb : s.bindings.Acyclic) {core : CoreType} (h : s.bindings.FixedTo t core)
    (calls : List Call) : (s.run calls).bindings.FixedTo t core :=
  (run_induction (P := fun b => b.FixedTo t core)
    (fun _ _ _ _ _ hb h hunify => h.unify hb hunify) hb h calls).2

/-- A column type with a known core type fixes the core type of the variable. -/
theorem fixedTo_run_probe (hb : s.bindings.Acyclic) {k : CoreType} (hk : k ≠ .any)
    (hm : Bindings.MeetEnding (s.bindings.ending (.var v)) (.column (.notNull k)) m) :
    (s.run [.unify (.var v) (.probe [] (.notNull k))]).bindings.FixedTo (.var v) k := by
  rw [(run_probe hb [] hm).1.fixedTo_iff, (reading_run_probe hb [] hm).2]
  exact ⟨hk, hm.core_eq hk⟩

/-! ## Telling variables apart -/

section Apart

variable (hb : s.bindings.Acyclic) (hz : s.bindings.root (.var z) = some z)
  (hoz : ¬s.bindings.Leads (.var o) z) (hzempty : s.bindings.NeverEmpty (.var z))
  (hoempty : s.bindings.NeverEmpty (.var o))
include hb hz hoz hzempty hoempty

/-- Once `z` has a chain of its own it can be made null for good, which is nothing to `o`. -/
theorem exists_pinnedNull_apart :
    ∃ calls, (s.run calls).bindings.Acyclic ∧ (s.run calls).bindings.PinnedNull (.var z) ∧
      (s.run calls).bindings.NeverEmpty (.var o) ∧
      ((s.run calls).bindings.PinnedNull (.var o) → s.bindings.PinnedNull (.var o)) := by
  obtain ⟨calls, hwraps, hroots, hown⟩ := exists_own_chain hb hz (hzempty z (by simp))
  have hb₁ := hwraps.acyclic
  -- a cast of null goes on the chain of `z`, which `o` does not lead to
  obtain ⟨m, hm⟩ := Bindings.exists_meetEnding_any hown.ne_empty
  obtain ⟨hb₂, hprobed⟩ := run_probe hb₁ [.orNull .any] hm
  obtain ⟨-, hagree⟩ := agreeFrom_run_probe hb₁ [.orNull .any] hm hroots
    fun hleads => hoz (hwraps.leads _ _ hleads)
  refine ⟨calls ++ [.unify (.var z) (.probe [.orNull .any] (.notNull .any))], ?_⟩
  rw [run_append]
  refine ⟨hb₂, ?_, ?_, ?_⟩
  · have hinputs := (reading_run_probe hb₁ [.orNull .any] hm).1
    have hnull : InferredType.column (.orNull .any) ∈
        (s.run calls).bindings.inputs (.var z) ++ [ColumnType.orNull .any].map .column := by simp
    exact .input (hinputs ▸ hnull) (.column rfl)
  · intro v hv hempty
    exact hwraps.neverEmpty hoempty v (hprobed.leads hb₁ hm.isEnd hv)
      (hprobed.empty hb₁ hb₂ hm hempty)
  · exact fun hpinned => hwraps.pinnedNull _ (hpinned.congr hb₂ hagree)

variable (hequal : ∀ calls, (s.run calls).inference.concrete (.var z) =
  (s.run calls).inference.concrete (.var o))
include hequal

theorem pinnedNull_right_of_equal : s.bindings.PinnedNull (.var o) := by
  by_contra hpinned
  obtain ⟨calls, hb', hz', hoempty', ho⟩ := exists_pinnedNull_apart hb hz hoz hzempty hoempty
  obtain ⟨calls', hnotnull⟩ := exists_not_null hb' hoempty' fun h => hpinned (ho h)
  have hnull := (keepsLinks_run hb' calls').1.nullable_of_pinnedNull (pinnedNull_run hb' hz' calls')
  have hsame := hequal (calls ++ calls')
  rw [run_append] at hsame
  rw [← hsame] at hnotnull
  cases hnull.symm.trans hnotnull

theorem pinnedNull_left_of_equal : s.bindings.PinnedNull (.var z) := by
  by_contra hpinned
  have ho := pinnedNull_right_of_equal hb hz hoz hzempty hoempty hequal
  obtain ⟨calls, hnotnull⟩ := exists_not_null hb hzempty hpinned
  have hnull := (keepsLinks_run hb calls).1.nullable_of_pinnedNull (pinnedNull_run hb ho calls)
  rw [hequal calls] at hnotnull
  cases hnull.symm.trans hnotnull

omit hz hoz hzempty in
/-- If the core type of `z` is fixed, `o` can be narrowed to another one. -/
theorem fixedTo_right_of_equal {core : CoreType} (hcore : s.bindings.FixedTo (.var z) core) :
    s.bindings.FixedTo (.var o) core := by
  by_contra hfixed
  obtain ⟨k, m, hk, hne, hm⟩ := hb.exists_other_core (hoempty o (by simp)) hfixed
  have hb' := (run_probe hb [] hm).1
  have ho := hb'.core_of_allows_single (fixedTo_run_probe hb hk hm).2
  have hz' := hb'.core_of_allows_single (fixedTo_run hb hcore _).2
  have hsame := congrArg ColumnType.core (hequal [.unify (.var o) (.probe [] (.notNull k))])
  exact hne (ho.symm.trans (hsame.symm.trans hz'))

omit hoempty in
/-- If it is not fixed, `z` can be narrowed once it has a chain of its own. -/
theorem exists_fixedTo_of_equal : ∃ core, s.bindings.FixedTo (.var z) core := by
  by_contra hfree
  obtain ⟨calls, hwraps, hroots, hown⟩ := exists_own_chain hb hz (hzempty z (by simp))
  have hb₁ := hwraps.acyclic
  -- the new chain says no more about the core type than the old one
  have hfixed : ¬(s.run calls).bindings.FixedTo (.var z)
      ((s.run calls).inference.concrete (.var o)).core := by
    intro hfixed
    obtain ⟨hany, hne, hall⟩ := hb₁.fixedTo_iff.mp hfixed
    exact hfree ⟨_, hb.fixedTo_iff.mpr ⟨hany, hown.core_eq_of_any hany hne hall⟩⟩
  obtain ⟨k, m, hk, hne, hm⟩ := hb₁.exists_other_core hown.ne_empty hfixed
  obtain ⟨hagree, -⟩ := agreeFrom_run_probe hb₁ [] hm hroots
    fun hleads => hoz (hwraps.leads _ _ hleads)
  have hb₂ := (run_probe hb₁ [] hm).1
  have hz' := hb₂.core_of_allows_single (fixedTo_run_probe hb₁ hk hm).2
  have ho := congrArg ColumnType.core (Bindings.concrete_congr hagree)
  have hsame := congrArg ColumnType.core
    (hequal (calls ++ [.unify (.var z) (.probe [] (.notNull k))]))
  rw [run_append] at hsame
  exact hne (hz'.symm.trans (hsame.trans ho))

theorem frozen_of_equal : s.bindings.Frozen (.var z) (.var o) := by
  obtain ⟨core, hcore⟩ := exists_fixedTo_of_equal hb hz hoz hzempty hequal
  exact ⟨pinnedNull_left_of_equal hb hz hoz hzempty hoempty hequal,
    pinnedNull_right_of_equal hb hz hoz hzempty hoempty hequal, core, hcore,
    fixedTo_right_of_equal hb hoempty hequal hcore⟩

end Apart

/-! ## Staying equal -/

theorem concrete_run_root (hb : s.bindings.Acyclic) {r : VarId}
    (h : s.bindings.root t = some r) (calls : List Call) :
    (s.run calls).inference.concrete t = (s.run calls).inference.concrete (.var r) := by
  obtain ⟨hb', hkept⟩ := keepsLinks_run hb calls
  exact hb'.concrete_eq_of_chain_eq (hkept.chain_eq hb hb' h)

variable {x y : VarId}

theorem equal_of_linked_or_frozen (hb : s.bindings.Acyclic)
    (h : s.bindings.Linked x y ∨ s.bindings.Frozen (.var x) (.var y)) (calls : List Call) :
    (s.run calls).inference.concrete (.var x) = (s.run calls).inference.concrete (.var y) := by
  rcases h with hlinked | hfrozen
  · obtain ⟨hb', hkept⟩ := keepsLinks_run hb calls
    exact hb'.concrete_eq_of_chain_eq (hkept.linked hb hb' hlinked)
  · obtain ⟨hb', hfrozen'⟩ := run_induction (P := fun b => b.Frozen (.var x) (.var y))
      (fun _ _ _ _ _ hb h hunify => h.unify hb hunify) hb hfrozen calls
    exact hb'.concrete_of_frozen hfrozen'

theorem linked_or_frozen_of_equal (hb : s.bindings.Acyclic)
    (hx : s.bindings.NeverEmpty (.var x)) (hy : s.bindings.NeverEmpty (.var y))
    (hequal : ∀ calls, (s.run calls).inference.concrete (.var x) =
      (s.run calls).inference.concrete (.var y)) :
    s.bindings.Linked x y ∨ s.bindings.Frozen (.var x) (.var y) := by
  refine or_iff_not_imp_left.mpr fun hunlinked => ?_
  obtain ⟨u, hu⟩ := Bindings.exists_root_var s.bindings x
  obtain ⟨w, hw⟩ := Bindings.exists_root_var s.bindings y
  have hne : u ≠ w := by
    rintro rfl
    exact hunlinked (hu.trans hw.symm)
  -- all that is said of the two variables can be said of their roots
  have hself : ∀ {t r}, s.bindings.root t = some r → s.bindings.root (.var r) = some r :=
    fun hroot => hb.root_eq_self fun _ => hb.root_not_bound_to_var hroot
  have hempty : ∀ {t r}, s.bindings.root t = some r → s.bindings.NeverEmpty t →
      s.bindings.NeverEmpty (.var r) :=
    fun hroot ht v hv => ht v ((hb.leads_root hroot).trans hv)
  have hroots : ∀ calls, (s.run calls).inference.concrete (.var u) =
      (s.run calls).inference.concrete (.var w) := fun calls => by
    rw [← concrete_run_root hb hu, ← concrete_run_root hb hw, hequal]
  have hfrozen : s.bindings.Frozen (.var u) (.var w) := by
    by_cases hleads : s.bindings.Leads (.var w) u
    · -- then the other one does not lead back
      have hback : ¬s.bindings.Leads (.var u) w := by
        intro hback
        rw [Bindings.leads_var] at hleads hback
        rcases Relation.reflTransGen_iff_eq_or_transGen.mp hback with heq | hpath
        · exact hne heq.symm
        · exact hb u (hpath.trans_left hleads)
      exact (frozen_of_equal hb (hself hw) hback (hempty hw hy) (hempty hu hx)
        fun calls => (hroots calls).symm).symm
    · exact frozen_of_equal hb (hself hu) hleads (hempty hu hx) (hempty hw hy) hroots
  exact hfrozen.congr hb (hb.chain_root hu) (hb.chain_root hw)

/-- When two variables that were unified stay equal. They do if they come to the same variable,
which they do only if they did so before or nothing was known about either; or if both are frozen
with the same column type. In no other case do they, as long as no list of alternatives without any
stands in the way: then there are further calls after which they differ. -/
theorem equal_ever_after_iff (hs : s.Reachable) {c : InferredType}
    (h : (s.inference.unify (.var x) (.var y)).1 = .ok c) :
    let s' := s.call (.unify (.var x) (.var y))
    (s'.bindings.Linked x y ↔
      s.bindings.Linked x y ∨ s.bindings.Open x ∧ s.bindings.Open y) ∧
    (s'.bindings.Linked x y ∨ s'.bindings.Frozen (.var x) (.var y) → ∀ calls,
      (s'.run calls).inference.concrete (.var x) = (s'.run calls).inference.concrete (.var y)) ∧
    (s'.bindings.NeverEmpty (.var x) → s'.bindings.NeverEmpty (.var y) →
      ((∀ calls, (s'.run calls).inference.concrete (.var x) =
          (s'.run calls).inference.concrete (.var y)) ↔
        s'.bindings.Linked x y ∨ s'.bindings.Frozen (.var x) (.var y))) := by
  intro s'
  have hb' : s'.bindings.Acyclic := (hs.call _).acyclic
  have hunify : s.bindings.unify (.var x) (.var y) = (.ok c, s'.bindings) := Prod.ext h rfl
  refine ⟨hs.acyclic.linked_unify_iff hunify, equal_of_linked_or_frozen hb', fun hx hy => ?_⟩
  exact ⟨linked_or_frozen_of_equal hb' hx hy, equal_of_linked_or_frozen hb'⟩

/-- Two parameters that were unified before anything was known about them. -/
theorem equal_ever_after_of_unknown :
    let s := run {} [.parameter (.positional 1), .parameter (.positional 2)]
    let s' := s.call (.unify (.var 0) (.var 1))
    s.Reachable ∧ ∀ calls,
      (s'.run calls).inference.concrete (.var 0) = (s'.run calls).inference.concrete (.var 1) := by
  intro s s'
  have hs : s.Reachable := ⟨_, _, rfl⟩
  have hok : (s.inference.unify (.var 0) (.var 1)).1 = .ok (.var 1) := by decide +kernel
  obtain ⟨hlinked, hequal, -⟩ := equal_ever_after_iff hs hok
  refine ⟨hs, hequal (Or.inl (hlinked.mpr (Or.inr ⟨⟨0, ?_⟩, 1, ?_⟩)))⟩
  · decide +kernel
  · decide +kernel

/-- Two parameters that were unified after one of them was compared with an integer constant: the
other one is still an integer when the first is a float. -/
theorem differ_after_narrowing :
    let s := run {} [
      .parameter (.positional 1),
      .parameter (.positional 2),
      .unify (.var 0) (.ofLiteral (.integer 1))]
    let s' := s.call (.unify (.var 0) (.var 1))
    let s'' := s'.call (.unify (.var 0) (.column (.notNull .float)))
    s.Reachable ∧
      (s.inference.unify (.var 0) (.var 1)).1 = .ok (.oneOf [.notNull .integer, .notNull .float]) ∧
      s'.inference.concrete (.var 0) = s'.inference.concrete (.var 1) ∧
      s''.inference.concrete (.var 0) = .notNull .float ∧
      s''.inference.concrete (.var 1) = .notNull .integer := by
  intro s s' s''
  exact ⟨⟨_, _, rfl⟩, by decide +kernel, by decide +kernel, by decide +kernel, by decide +kernel⟩

end Session

end QueryTyping
