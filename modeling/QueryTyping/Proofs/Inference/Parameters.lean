import QueryTyping.Proofs.Inference.Batch

/-!
# The parameters of a statement

An inference lists the parameters of its statement in the order in which they were first asked for
(`Batch.parameters_run`). A parameter keeps the variable that it was given
(`Batch.variableOf_run_of_eq_some`), so all requests for it are handed the same variable, and what
the list says of its type is what this variable comes down to.
-/

namespace QueryTyping

/-- The parameter whose variable is asked for. -/
def Request.parameter? : Request → Option Parameter
  | parameter p => some p
  | fresh | unify _ _ | concrete _ => none

namespace Batch

variable {batch : Batch} {statement other : Nat} {p : Parameter} {v : VarId} {supply : Supply}
  {requests before : List (Nat × Request)}

/-- The parameters that a statement asks for, one for each such request. -/
def askedBy (statement : Nat) (requests : List (Nat × Request)) : List Parameter :=
  requests.filterMap fun entry => if entry.1 = statement then entry.2.parameter? else none

theorem askedBy_append (requests requests' : List (Nat × Request)) :
    askedBy statement (requests ++ requests') =
      askedBy statement requests ++ askedBy statement requests' :=
  List.filterMap_append

theorem mem_askedBy_iff : p ∈ askedBy statement requests ↔ (statement, .parameter p) ∈ requests := by
  simp only [askedBy, List.mem_filterMap, Prod.exists]
  constructor
  · rintro ⟨other, asked, hmem, h⟩
    split at h
    · next heq =>
      subst heq
      cases asked with
      | parameter q =>
        cases h
        exact hmem
      | fresh => cases h
      | unify l r => cases h
      | concrete ty => cases h
    · cases h
  · intro h
    exact ⟨statement, .parameter p, h, by simp [Request.parameter?]⟩

/-- A request is one for a parameter, or the statement asks for none. -/
theorem askedBy_singleton (statement : Nat) (entry : Nat × Request) :
    (∃ p, entry = (statement, .parameter p)) ∨ askedBy statement [entry] = [] := by
  obtain ⟨other, asked⟩ := entry
  by_cases h : other = statement
  · subst h
    cases asked with
    | parameter p => exact Or.inl ⟨p, rfl⟩
    | fresh => exact Or.inr (by simp [askedBy, Request.parameter?])
    | unify l r => exact Or.inr (by simp [askedBy, Request.parameter?])
    | concrete ty => exact Or.inr (by simp [askedBy, Request.parameter?])
  · exact Or.inr (by simp [askedBy, h])

theorem variableOf_eq_none_iff :
    batch.variableOf statement p = none ↔ p ∉ (batch.inferences statement).parameters := by
  simp only [variableOf, List.lookup_eq_none_iff, Inference.parameters, List.mem_map, bne_iff_ne]
  constructor
  · rintro h ⟨entry, hentry, rfl⟩
    exact h entry hentry rfl
  · rintro h entry hentry rfl
    exact h ⟨entry, hentry, rfl⟩

theorem exists_variableOf (h : p ∈ (batch.inferences statement).parameters) :
    ∃ v, batch.variableOf statement p = some v := by
  cases hp : batch.variableOf statement p with
  | none => exact absurd h (variableOf_eq_none_iff.mp hp)
  | some v => exact ⟨v, rfl⟩

/-! ## The list of parameters -/

theorem inferences_request_of_ne (h : other ≠ statement) (asked : Request) :
    (batch.request statement asked).inferences other = batch.inferences other := by
  cases asked <;> simp [Batch.request, replace, h]

/-- A unification keeps the list, whether it succeeds or fails. -/
theorem parameterVariables_request_unify (batch : Batch) (statement other : Nat)
    (l r : InferredType) :
    ((batch.request other (.unify l r)).inferences statement).parameterVariables =
      (batch.inferences statement).parameterVariables := by
  by_cases h : statement = other
  · subst h
    simp [Batch.request, replace, Inference.unify]
  · rw [inferences_request_of_ne h]

/-- A statement that asks for no parameter gets no new one. -/
theorem parameterVariables_request_of_askedBy {asked : Request}
    (h : askedBy statement [(other, asked)] = []) :
    ((batch.request other asked).inferences statement).parameterVariables =
      (batch.inferences statement).parameterVariables := by
  by_cases hne : statement = other
  · subst hne
    cases asked with
    | fresh => rw [request_fresh]; rfl
    | parameter p => simp [askedBy, Request.parameter?] at h
    | unify l r => exact parameterVariables_request_unify batch statement statement l r
    | concrete ty => rfl
  · rw [inferences_request_of_ne hne]

/-- A parameter is added to the list unless it is there. -/
theorem parameterVariables_request_parameter (batch : Batch) (statement : Nat) (p : Parameter) :
    ((batch.request statement (.parameter p)).inferences statement).parameterVariables =
      (batch.inferences statement).parameterVariables ++
        if p ∈ (batch.inferences statement).parameters then [] else [(p, batch.supply.next)] := by
  by_cases hmem : p ∈ (batch.inferences statement).parameters
  · rw [if_pos hmem, List.append_nil]
    obtain ⟨v, hp⟩ := exists_variableOf hmem
    rw [request_parameter_of_some hp]
  · rw [if_neg hmem, request_parameter_of_none (variableOf_eq_none_iff.mpr hmem)]
    simp [assign, withInference]

theorem parameters_request_parameter (batch : Batch) (statement : Nat) (p : Parameter) :
    ((batch.request statement (.parameter p)).inferences statement).parameters =
      (batch.inferences statement).parameters ++
        if p ∈ (batch.inferences statement).parameters then [] else [p] := by
  rw [Inference.parameters, parameterVariables_request_parameter, List.map_append]
  split <;> rfl

/-- The list has the parameters that were asked for, in the order of their first use. -/
theorem parameters_run (supply : Supply) (statement : Nat) (requests : List (Nat × Request)) :
    ((run { supply } requests).inferences statement).parameters =
      (askedBy statement requests).eraseDups := by
  induction requests using List.reverseRecOn with
  | nil => rfl
  | append_singleton requests entry ih =>
    rw [run_append, run_cons, run_nil, askedBy_append, List.eraseDups_append, ← ih]
    rcases askedBy_singleton statement entry with ⟨p, rfl⟩ | hnone
    · have hasked : askedBy statement [(statement, .parameter p)] = [p] := by
        simp [askedBy, Request.parameter?]
      rw [parameters_request_parameter, hasked, ih]
      by_cases hp : p ∈ askedBy statement requests
      · simp [List.removeAll, List.mem_eraseDups, hp]
      · simp [List.removeAll, List.mem_eraseDups, List.eraseDups_cons, hp]
    · rw [hnone]
      exact (congrArg (List.map (·.1)) (parameterVariables_request_of_askedBy hnone)).trans
        (List.append_nil _).symm

/-! ## The variables of the parameters -/

theorem variableOf_run_of_eq_some (h : batch.variableOf statement p = some v) :
    (batch.run requests).variableOf statement p = some v := by
  induction requests generalizing batch with
  | nil => exact h
  | cons entry requests ih => exact ih (variableOf_request_of_eq_some h)

/-- The list has each parameter with its variable. -/
def Listed (batch : Batch) : Prop :=
  ∀ statement, ∀ entry ∈ (batch.inferences statement).parameterVariables,
    batch.variableOf statement entry.1 = some entry.2

theorem Listed.request (h : batch.Listed) (other : Nat) (asked : Request) :
    (batch.request other asked).Listed := by
  intro statement entry hentry
  rcases askedBy_singleton statement (other, asked) with ⟨p, heq⟩ | hnone
  · obtain ⟨rfl, rfl⟩ := Prod.mk.inj heq
    rw [parameterVariables_request_parameter, List.mem_append] at hentry
    rcases hentry with hold | hnew
    · exact variableOf_request_of_eq_some (h other entry hold)
    · split at hnew
      · cases hnew
      · next hmem =>
        obtain rfl := List.mem_singleton.mp hnew
        rw [variableOf_request_parameter, variableOf_eq_none_iff.mpr hmem, Option.getD_none]
  · rw [parameterVariables_request_of_askedBy hnone] at hentry
    exact variableOf_request_of_eq_some (h statement entry hentry)

theorem Listed.run (h : batch.Listed) (requests : List (Nat × Request)) :
    (batch.run requests).Listed := by
  induction requests generalizing batch with
  | nil => exact h
  | cons entry requests ih => exact ih (h.request entry.1 entry.2)

theorem Listed.parameterVariables_eq (h : batch.Listed) (statement : Nat) (v : VarId) :
    (batch.inferences statement).parameterVariables =
      (batch.inferences statement).parameters.map fun p =>
        (p, (batch.variableOf statement p).getD v) := by
  rw [Inference.parameters, List.map_map]
  refine (List.map_id _).symm.trans (List.map_congr_left fun entry hentry => ?_)
  simp [h statement entry hentry]

/-- A request for a parameter is handed the variable that the parameter has in the end. -/
theorem handed_of_prefix (h : before ++ [(statement, .parameter p)] <+: requests) :
    ∃ v, (run { supply } requests).variableOf statement p = some v ∧
      (run { supply } before).handed statement (.parameter p) = some (.var v) := by
  obtain ⟨rest, rfl⟩ := h
  refine ⟨_, ?_, handed_parameter _ _ _⟩
  rw [run_append, run_append]
  exact variableOf_run_of_eq_some (variableOf_request_parameter _ _ _)

/-- The parameters of a statement are those that it asked for, each listed once, in the order of
their first use. Each has a variable of its own, which all requests for it are handed, and the type
that the list says of it is what this variable comes down to. Unifications do not change the list,
whether they succeed or fail. -/
theorem parameter_table (hfew : (run { supply } requests).taken.length < 2 ^ 64)
    (statement : Nat) :
    let inference := (run { supply } requests).inferences statement
    inference.parameters = (askedBy statement requests).eraseDups ∧
    (∃ assigned : Parameter → VarId,
      (∀ before p, before ++ [(statement, .parameter p)] <+: requests →
        (run { supply } before).handed statement (.parameter p) = some (.var (assigned p))) ∧
      (∀ p ∈ inference.parameters, ∀ q ∈ inference.parameters, assigned p = assigned q → p = q) ∧
      inference.parameterVariables = inference.parameters.map (fun p => (p, assigned p)) ∧
      inference.parameterTypes =
        inference.parameters.map fun p => (p, inference.concrete (.var (assigned p)))) ∧
    ∀ other l r,
      (((run { supply } requests).request other (.unify l r)).inferences
        statement).parameterVariables = inference.parameterVariables := by
  intro inference
  have hlisted : (run { supply } requests).Listed :=
    Listed.run (fun statement entry hentry => by cases hentry) requests
  have htable := hlisted.parameterVariables_eq statement supply.next
  obtain ⟨-, hassigned⟩ := counted_run supply hfew
  refine ⟨parameters_run supply statement requests, ⟨_, ?_, ?_, htable, ?_⟩,
    fun other l r => parameterVariables_request_unify _ _ other l r⟩
  · intro before p hmade
    obtain ⟨v, hv, hhanded⟩ := handed_of_prefix hmade
    rw [hhanded, hv, Option.getD_some]
  · intro p hp q hq heq
    obtain ⟨v, hv⟩ := exists_variableOf hp
    obtain ⟨w, hw⟩ := exists_variableOf hq
    rw [hv, hw, Option.getD_some, Option.getD_some] at heq
    exact (hassigned.unique statement p statement q v hv (heq ▸ hw)).2
  · rw [Inference.parameterTypes, htable, List.map_map]
    rfl

/-- Two statements with a parameter of the same name. The first one asks for it again after two
unifications, of which the second fails. -/
theorem parameter_table_of_repeated :
    let low : Parameter := .named ":low"
    let before : List (Nat × Request) := [
      (0, .parameter low), (1, .parameter low), (0, .parameter (.positional 1)),
      (0, .unify (.var 0) (.column (.notNull .integer))),
      (0, .unify (.var 0) (.column (.notNull .string)))]
    let batch := run {} (before ++ [(0, .parameter low)])
    batch.taken.length < 2 ^ 64 ∧ (batch.inferences 0).parameters = [low, .positional 1] ∧
      ∃ assigned : Parameter → VarId,
        (run {} before).handed 0 (.parameter low) = some (.var (assigned low)) ∧
        assigned low ≠ assigned (.positional 1) ∧
        (batch.inferences 0).parameterTypes =
          [(low, (batch.inferences 0).concrete (.var (assigned low))),
            (.positional 1, (batch.inferences 0).concrete (.var (assigned (.positional 1))))] := by
  intro low before batch
  have hfew : batch.taken.length < 2 ^ 64 := by decide +kernel
  have hparameters : (batch.inferences 0).parameters = [low, .positional 1] := by decide +kernel
  obtain ⟨-, ⟨assigned, hhanded, hinjective, -, htypes⟩, -⟩ := parameter_table hfew 0
  refine ⟨hfew, hparameters, assigned, hhanded before low List.prefix_rfl, fun heq => ?_, ?_⟩
  · have hlow : low ∈ (batch.inferences 0).parameters := hparameters ▸ List.mem_cons_self
    have hfirst : .positional 1 ∈ (batch.inferences 0).parameters :=
      hparameters ▸ List.mem_cons_of_mem low List.mem_cons_self
    exact absurd (hinjective low hlow (.positional 1) hfirst heq) (by decide)
  · exact htypes.trans (congrArg (List.map _) hparameters)

end Batch

end QueryTyping
