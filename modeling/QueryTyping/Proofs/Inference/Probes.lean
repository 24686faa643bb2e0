import QueryTyping.Proofs.Inference.Casts
import QueryTyping.Proofs.Inference.Endings

/-!
# Unifying with a type that mentions no variable

A probe is a column type under casts of column types. Nothing leads from it to a variable, so
unifying a type with a probe fails only if the endings do not meet, and what it writes can be told
in advance: each variable on the chain of the type gets the casts of the probe behind its own, and
the meet for its ending (`Acyclic.unify_probe`, `Probed`).
-/

namespace QueryTyping

/-- A column type under casts of column types. -/
def InferredType.probe (inputs : List ColumnType) (ty : ColumnType) : InferredType :=
  .casts (inputs.map .column) (.column ty)

theorem Chain.root_probe (b : Bindings) (inputs : List ColumnType) (ty : ColumnType) :
    (b.chain (.probe inputs ty)).root = none :=
  root_casts b (inputs.map .column) (Or.inl ⟨ty, rfl⟩)

theorem Chain.probe_ne_unbound (b : Bindings) (inputs : List ColumnType) (ty : ColumnType) :
    ∀ y, b.chain (.probe inputs ty) = unbound y → False :=
  casts_ne_unbound b (inputs.map .column) (Or.inl ⟨ty, rfl⟩)

namespace Bindings

open Relation

variable {b b' : Bindings} {t l m : InferredType} {id v w : VarId} {inputs : List ColumnType}
  {ty : ColumnType}

theorem mentions_casts {inputs : List InferredType} :
    (InferredType.casts inputs t).mentions v = true ↔
      (∃ input ∈ inputs, input.mentions v = true) ∨ t.mentions v = true := by
  induction inputs with
  | nil => simp [InferredType.casts]
  | cons input inputs ih => simp [InferredType.casts, InferredType.mentions, ih, or_assoc]

/-- Every variable in `written` gets the inputs behind its own, and the ending. -/
structure Probed (b b' : Bindings) (written : List VarId) (inputs : List ColumnType)
    (m : InferredType) : Prop where
  get?_written : ∀ v ∈ written,
    b'.get? v = some (.casts (b.inputs (.var v) ++ inputs.map .column) m)
  get?_others : ∀ v, v ∉ written → b'.get? v = b.get? v

theorem Acyclic.transGen_of_mem_inputs (hb : b.Acyclic) {input : InferredType}
    (hinput : input ∈ b.inputs (.var v)) (h : b.Leads input w) : TransGen b.Refers v w := by
  cases hv : b.get? v with
  | none => simp [hv] at hinput
  | some bound =>
    obtain ⟨u, hu, hpath⟩ := hb.leads_of_mem_inputs (hb.inputs_bound hv ▸ hinput) h
    exact TransGen.head' ⟨bound, hv, hu⟩ hpath

/-! ## What a probe writes -/

/-- In what is written to a variable only its own inputs mention variables. -/
theorem exists_input_of_mentions (hm : m.IsEnd)
    (h : (InferredType.casts (b.inputs (.var v) ++ inputs.map .column) m).mentions w = true) :
    ∃ input ∈ b.inputs (.var v), input.mentions w = true := by
  rw [mentions_casts, hm.not_mentions] at h
  obtain ⟨input, hinput, hw⟩ | hw := h
  · rcases List.mem_append.mp hinput with hinput | hinput
    · exact ⟨input, hinput, hw⟩
    · obtain ⟨ty, -, rfl⟩ := List.mem_map.mp hinput
      simp [InferredType.mentions] at hw
  · simp at hw

section Probed

variable {written : List VarId} (hb : b.Acyclic) (h : Probed b b' written inputs m) (hm : m.IsEnd)
include hb h hm

/-- A probe opens no way between variables. -/
theorem Probed.transGen (hrefers : b'.Refers v w) : TransGen b.Refers v w := by
  by_cases hv : v ∈ written
  · obtain ⟨bound, hbound, hw⟩ := hrefers
    rw [h.get?_written v hv, Option.some.injEq] at hbound
    obtain ⟨input, hinput, hw⟩ := exists_input_of_mentions hm (hbound ▸ hw)
    exact hb.transGen_of_mem_inputs hinput ⟨w, hw, ReflTransGen.refl⟩
  · rw [Refers, h.get?_others v hv] at hrefers
    exact TransGen.single hrefers

theorem Probed.leads (hleads : b'.Leads t w) : b.Leads t w := by
  obtain ⟨v, hv, hpath⟩ := hleads
  refine ⟨v, hv, ?_⟩
  exact ReflTransGen.lift' id (fun _ _ hstep => (h.transGen hb hm hstep).to_reflTransGen) v w hpath

/-- What is written to a variable does not lead back to it, since its own inputs do not. -/
theorem Probed.not_leads_self (v : VarId) :
    ¬b'.Leads (.casts (b.inputs (.var v) ++ inputs.map .column) m) v := by
  intro hleads
  obtain ⟨w, hw, hpath⟩ := h.leads hb hm hleads
  obtain ⟨input, hinput, hw⟩ := exists_input_of_mentions hm hw
  exact hb v (hb.transGen_of_mem_inputs hinput ⟨w, hw, hpath⟩)

end Probed

theorem MeetEnding.isEnd {e : InferredType} (h : MeetEnding e (.column ty) m) : m.IsEnd := by
  rcases h.column with ⟨-, -, rfl⟩ | ⟨hmeet, -⟩
  · exact Or.inl ⟨ty, rfl⟩
  · exact InferredType.isEnd_of_meet hmeet

/-- Whatever is read through a variable that was written gets the inputs and the ending; all else
is read as before. -/
theorem Probed.reading {written : List VarId} (hb : b.Acyclic) (hb' : b'.Acyclic)
    (h : Probed b b' written inputs m) (hm : m.IsEnd) (t : InferredType) :
    (b'.inputs t = b.inputs t ∧ b'.ending t = b.ending t) ∨
      b'.inputs t = b.inputs t ++ inputs.map .column ∧ b'.ending t = m := by
  obtain ⟨hinputs, hending, -⟩ := reading_of_isEnd b' hm
  have hwritten : ∀ v ∈ written, b'.inputs (.var v) = b.inputs (.var v) ++ inputs.map .column ∧
      b'.ending (.var v) = m := by
    intro v hv
    rw [hb'.inputs_bound (h.get?_written v hv), hb'.ending_bound (h.get?_written v hv),
      inputs_casts, ending_casts, hinputs, hending, List.append_nil]
    exact ⟨rfl, rfl⟩
  induction t using hb.induction with
  | column ty => simp
  | oneOf alternatives => simp
  | cast input result _ ih =>
    rw [inputs_cast, inputs_cast, ending_cast, ending_cast]
    rcases ih with ⟨hinputs, hending⟩ | ⟨hinputs, hending⟩
    · exact Or.inl ⟨by rw [hinputs], hending⟩
    · exact Or.inr ⟨by rw [hinputs]; rfl, hending⟩
  | unbound id hid =>
    by_cases hv : id ∈ written
    · exact Or.inr (hwritten id hv)
    · have hid' : b'.get? id = none := by rw [h.get?_others id hv, hid]
      exact Or.inl ⟨by simp [hid, hid'], by simp [hid, hid']⟩
  | bound id ty hid ih =>
    by_cases hv : id ∈ written
    · exact Or.inr (hwritten id hv)
    · have hid' : b'.get? id = some ty := by rw [h.get?_others id hv, hid]
      rw [hb.inputs_bound hid, hb'.inputs_bound hid', hb.ending_bound hid, hb'.ending_bound hid']
      exact ih

/-! ## Unifying with a probe -/

theorem resolve_probe (b : Bindings) (inputs : List ColumnType) (ty : ColumnType) :
    b.resolve (.probe inputs ty) = .probe inputs ty := by
  cases inputs <;> simp [InferredType.probe, InferredType.casts]

theorem not_leads_probe : ¬b.Leads (.probe inputs ty) v := by
  rintro ⟨w, hw, -⟩
  rw [InferredType.probe, mentions_casts] at hw
  simp [InferredType.mentions] at hw

/-- Without a variable or a cast on the left nothing is written. -/
theorem exists_unify_probe_of_meet (hl : l.IsEnd)
    (hm : l.meet (.column ty) = some m ∧ (InferredType.column ty).meet l = some m) :
    ∃ b', b.unify l (.probe inputs ty) = (.ok (.casts (b.inputs l ++ inputs.map .column) m), b') ∧
      Probed b b' (b.roots l) inputs m := by
  obtain ⟨hinputs, -, hroots⟩ := reading_of_isEnd b hl
  have hcombine : (b.chain l).combine (b.chain (.probe inputs ty)) b =
      (.ok (.casts (inputs.map .column) m), b) := by
    refine Chain.combine_casts [] _ hl (Or.inl ⟨ty, rfl⟩) ?_
    split
    · exact hm.1
    · exact hm.2
  refine ⟨b, ?_, by simp [hroots], fun _ _ => rfl⟩
  unfold Bindings.unify Chain.unify
  rw [hcombine, show (b.chain l).root = none from Chain.root_casts b [] hl, Chain.root_probe,
    settle_none, hinputs]
  rfl

/-- A cast on the left is put back around what its result is unified to. -/
theorem Acyclic.unify_cast_probe (hb : b.Acyclic) (input result : InferredType) :
    b.unify (.cast input result) (.probe inputs ty) =
      (b.unify result (.probe inputs ty)).underCast input := by
  have hdetach : (b.chain (.probe inputs ty)).detach = b.chain (.probe inputs ty) := by
    rw [hb.detach_chain, resolve_probe]
  unfold Bindings.unify Chain.unify
  rw [chain_cast, Chain.combine_cast_left (Chain.probe_ne_unbound b inputs ty), hdetach,
    Chain.root_probe]
  exact settle_none _

/-- A variable without binding is bound to the probe. -/
theorem Acyclic.unify_unbound_probe (hb : b.Acyclic) (hid : b.get? id = none) :
    b.unify (.var id) (.probe inputs ty) =
      (.ok (.probe inputs ty),
        (b.insert id (.probe inputs ty)).assignRoot (some id) (.probe inputs ty)) := by
  have hoccurs : b.occurs id (.probe inputs ty) = false :=
    hb.not_occurs_iff.mpr not_leads_probe
  have hcombine : (b.chain (.var id)).combine (b.chain (.probe inputs ty)) b =
      (.ok (.probe inputs ty), b.insert id (.probe inputs ty)) := by
    rw [chain_var_none hid, Chain.combine, type_chain, resolve_probe, bind, hoccurs]
    · rfl
    · exact Chain.probe_ne_unbound b inputs ty
  unfold Bindings.unify Chain.unify
  rw [hcombine, chain_var_none hid, Chain.root_probe]
  rfl

/-- A variable that is bound to something other than a variable is written once its type has been
unified. -/
theorem Acyclic.unify_bound_probe (hb : b.Acyclic) {bound c : InferredType}
    (hid : b.get? id = some bound) (hroot : b.root bound = none)
    (h : b.unify bound (.probe inputs ty) = (.ok c, b')) :
    b.unify (.var id) (.probe inputs ty) = (.ok c, b'.assignRoot (some id) c) := by
  have hcombine : (b.chain bound).combine (b.chain (.probe inputs ty)) b = (.ok c, b') := by
    unfold Bindings.unify Chain.unify at h
    rwa [show (b.chain bound).root = none from hroot, Chain.root_probe, settle_none] at h
  unfold Bindings.unify Chain.unify
  rw [hb.chain_bound hid, Chain.combine_rootAt, hcombine, Chain.root_rootAt_of_root_eq_none hroot,
    Chain.root_probe]
  rfl

/-- Unifying with a probe succeeds if the endings meet, and writes all variables on the chain. -/
theorem Acyclic.unify_probe (hb : b.Acyclic) (inputs : List ColumnType)
    (hm : MeetEnding (b.ending l) (.column ty) m) :
    ∃ b', b.unify l (.probe inputs ty) = (.ok (.casts (b.inputs l ++ inputs.map .column) m), b') ∧
      Probed b b' (b.roots l) inputs m := by
  induction l using hb.induction with
  | column l =>
    rw [ending_column] at hm
    obtain ⟨_, h, _⟩ | hmeet := hm.column
    · cases h
    · exact exists_unify_probe_of_meet (Or.inl ⟨l, rfl⟩) hmeet
  | oneOf alternatives =>
    rw [ending_oneOf] at hm
    obtain ⟨_, h, _⟩ | hmeet := hm.column
    · cases h
    · exact exists_unify_probe_of_meet (Or.inr ⟨alternatives, rfl⟩) hmeet
  | cast input result _ ih =>
    rw [ending_cast] at hm
    obtain ⟨b', hunify, hprobed⟩ := ih hm
    refine ⟨b', ?_, by rwa [roots_cast]⟩
    rw [hb.unify_cast_probe, hunify, inputs_cast]
    rfl
  | unbound id hid =>
    rw [ending_var_none hid] at hm
    obtain ⟨-, -, rfl⟩ | ⟨hmeet, -⟩ := hm.column
    · have hinputs : b.inputs (.var id) = [] := inputs_var_none hid
      have hroots : b.roots (.var id) = [id] := by simp [roots, hid, Chain.roots]
      rw [hinputs, hroots]
      refine ⟨_, hb.unify_unbound_probe hid, fun v hv => ?_, fun v hv => ?_⟩
      · rw [List.mem_singleton.mp hv, hinputs]
        exact get?_assignRoot_of_get? (by simp [get?_insert, InferredType.probe])
      · have hne : v ≠ id := by simpa using hv
        rw [get?_assignRoot_of_ne (by simpa using hne.symm), get?_insert, if_neg hne]
    · cases hmeet
  | bound id bound hid ih =>
    rw [hb.ending_bound hid] at hm
    obtain ⟨b₁, hunify, hprobed⟩ := ih hm
    cases hroot : b.root bound with
    | some y =>
      -- the variable is bound to a variable, which speaks for it
      have hchain : b.chain (.var id) = b.chain bound := by
        rw [hb.chain_bound hid, Chain.rootAt_of_root_eq_some hroot]
      have hsame : b.unify (.var id) (.probe inputs ty) = b.unify bound (.probe inputs ty) := by
        unfold Bindings.unify
        rw [hchain]
      exact ⟨b₁, by rw [hsame, hb.inputs_bound hid, hunify], by rwa [roots, hchain]⟩
    | none =>
      have hb₁ := hb.of_unify hunify
      have hleads : ¬b₁.Leads (.casts (b.inputs bound ++ inputs.map .column) m) id := by
        rw [← hb.inputs_bound hid]
        exact hprobed.not_leads_self hb hm.isEnd id
      have hwritten : b₁.assignRoot (some id) (.casts (b.inputs bound ++ inputs.map .column) m) =
          b₁.insert id (.casts (b.inputs bound ++ inputs.map .column) m) := by
        rw [Bindings.assignRoot, Bindings.assign, if_neg]
        rwa [hb₁.occurs_iff]
      have hroots : b.roots (.var id) = id :: b.roots bound := by
        rw [roots, hb.chain_bound hid, Chain.roots_rootAt_of_root_eq_none hroot, roots]
      refine ⟨_, by rw [hb.unify_bound_probe hid hroot hunify, hwritten, hb.inputs_bound hid], ?_⟩
      refine ⟨fun v hv => ?_, fun v hv => ?_⟩
      · rw [get?_insert]
        split
        · next h => rw [h, hb.inputs_bound hid]
        · next h => exact hprobed.get?_written v (by simpa [hroots, h] using hv)
      · rw [hroots, List.mem_cons, not_or] at hv
        rw [get?_insert, if_neg hv.1, hprobed.get?_others v hv.2]

end Bindings

end QueryTyping
