import QueryTyping.Proofs.Inference.Session

/-!
# Inferences that share a supply

A batch is any number of inferences, one for each statement, that take their variables from one
supply. Statements make requests in any order. `Batch.taken` keeps record of the variables that were
taken from the supply.

What a request can do is said once (`Batch.request_cases`). The variables that are taken are
numbered one after the other (`Batch.Counted`), so the next one is new as long as the numbers last.
Hence no two parameters, of one statement or of two, get the same variable, and none that was
handed out without a parameter (`Batch.HandsOut.eq_iff`).
-/

namespace QueryTyping

/-- What a statement can ask of its inference. -/
inductive Request where
  /-- A fresh variable. -/
  | fresh
  /-- The variable of a parameter. -/
  | parameter (parameter : Parameter)
  /-- That two types are unified. -/
  | unify (left right : InferredType)
  /-- The column type that a type comes down to. -/
  | concrete (ty : InferredType)

/-- The types that are passed with a request. -/
def Request.types : Request → List InferredType
  | fresh => []
  | parameter _ => []
  | unify left right => [left, right]
  | concrete ty => [ty]

/-- Inferences that take their variables from one supply. -/
structure Batch where
  /-- The inference of each statement. -/
  inferences : Nat → Inference := fun _ => .empty
  supply : Supply := {}
  /-- The variables that were taken from the supply, the latest first. -/
  taken : List VarId := []

namespace Batch

/-- The batch with another inference for a statement, after the supply was used or not. -/
def replace (batch : Batch) (statement : Nat) (inference : Inference) (supply : Supply) : Batch where
  inferences := Function.update batch.inferences statement inference
  supply := supply
  taken := if supply = batch.supply then batch.taken else batch.supply.next :: batch.taken

/-- The batch after a request of a statement. -/
def request (batch : Batch) (statement : Nat) : Request → Batch
  | .fresh => batch.replace statement (batch.inferences statement) batch.supply.fresh.2
  | .parameter parameter =>
    let (_, inference, supply) := (batch.inferences statement).parameter batch.supply parameter
    batch.replace statement inference supply
  | .unify left right =>
    batch.replace statement ((batch.inferences statement).unify left right).2 batch.supply
  | .concrete _ => batch

/-- The variable that a request asks for. -/
def handed (batch : Batch) (statement : Nat) : Request → Option InferredType
  | .fresh => some (.var batch.supply.fresh.1)
  | .parameter parameter => some ((batch.inferences statement).parameter batch.supply parameter).1
  | .unify _ _ | .concrete _ => none

/-- The batch after some requests, each with the statement that makes it. -/
def run (batch : Batch) (requests : List (Nat × Request)) : Batch :=
  requests.foldl (fun batch entry => batch.request entry.1 entry.2) batch

@[simp] theorem run_nil (batch : Batch) : batch.run [] = batch := rfl

@[simp] theorem run_cons (batch : Batch) (statement : Nat) (request : Request)
    (requests : List (Nat × Request)) :
    batch.run ((statement, request) :: requests) = (batch.request statement request).run requests :=
  rfl

theorem run_append (batch : Batch) (requests requests' : List (Nat × Request)) :
    batch.run (requests ++ requests') = (batch.run requests).run requests' := by
  simp [run, List.foldl_append]

variable {batch : Batch} {statement other : Nat} {asked : Request}
  {requests : List (Nat × Request)}

/-! ## What a request does -/

/-- The batch after a variable was taken from the supply. -/
def take (batch : Batch) : Batch :=
  { batch with supply := batch.supply.fresh.2, taken := batch.supply.next :: batch.taken }

/-- The batch with another inference for a statement. -/
def withInference (batch : Batch) (statement : Nat) (inference : Inference) : Batch :=
  { batch with inferences := Function.update batch.inferences statement inference }

@[simp] theorem taken_withInference (inference : Inference) :
    (batch.withInference statement inference).taken = batch.taken := rfl

@[simp] theorem taken_take : batch.take.taken = batch.supply.next :: batch.taken := rfl

@[simp] theorem inferences_take : batch.take.inferences = batch.inferences := rfl

theorem replace_same (batch : Batch) (statement : Nat) (inference : Inference) :
    batch.replace statement inference batch.supply = batch.withInference statement inference := by
  simp [replace, withInference]

theorem replace_fresh (batch : Batch) (statement : Nat) (inference : Inference) :
    batch.replace statement inference batch.supply.fresh.2 =
      batch.take.withInference statement inference := by
  have hmoved : batch.supply.fresh.2 ≠ batch.supply := by
    intro h
    have hnext : batch.supply.next + 1 = batch.supply.next := congrArg Supply.next h
    simp at hnext
  simp [replace, withInference, take, hmoved]

theorem withInference_self (batch : Batch) (statement : Nat) :
    batch.withInference statement (batch.inferences statement) = batch := by
  simp [withInference]

/-- The variable that a parameter of a statement has got. -/
def variableOf (batch : Batch) (statement : Nat) (parameter : Parameter) : Option VarId :=
  (batch.inferences statement).parameterVariables.lookup parameter

/-- A new parameter gets the next variable. -/
def assign (batch : Batch) (statement : Nat) (parameter : Parameter) : Batch :=
  let inference := batch.inferences statement
  batch.take.withInference statement { inference with
    parameterVariables := inference.parameterVariables ++ [(parameter, batch.supply.next)] }

theorem handed_parameter (batch : Batch) (statement : Nat) (parameter : Parameter) :
    batch.handed statement (.parameter parameter) =
      some (.var ((batch.variableOf statement parameter).getD batch.supply.next)) := by
  unfold variableOf
  cases h : (batch.inferences statement).parameterVariables.lookup parameter with
  | none =>
    simp only [handed, Inference.parameter, h]
    rfl
  | some id => simp only [handed, Inference.parameter, h, Option.getD_some]

theorem request_fresh (batch : Batch) (statement : Nat) :
    batch.request statement .fresh = batch.take := by
  rw [Batch.request, replace_fresh]
  exact withInference_self batch.take statement

theorem request_parameter_of_some {p : Parameter} {v : VarId}
    (h : batch.variableOf statement p = some v) :
    batch.request statement (.parameter p) = batch := by
  rw [variableOf] at h
  simp only [Batch.request, Inference.parameter, h]
  rw [replace_same, withInference_self]

theorem request_parameter_of_none {p : Parameter} (h : batch.variableOf statement p = none) :
    batch.request statement (.parameter p) = batch.assign statement p := by
  rw [variableOf] at h
  simp only [Batch.request, Inference.parameter, h]
  exact replace_fresh batch statement _

/-- A request changes nothing, takes a variable, gives one to a new parameter, or unifies two types
with success. -/
theorem request_cases (batch : Batch) (statement : Nat) (request : Request) :
    batch.request statement request = batch ∨
    request = .fresh ∧ batch.request statement request = batch.take ∨
    (∃ parameter, request = .parameter parameter ∧ batch.variableOf statement parameter = none ∧
      batch.request statement request = batch.assign statement parameter) ∨
    ∃ l r c b, request = .unify l r ∧
      (batch.inferences statement).bindings.unify l r = (.ok c, b) ∧
      batch.request statement request =
        batch.withInference statement { batch.inferences statement with bindings := b } := by
  cases request with
  | fresh => exact Or.inr (Or.inl ⟨rfl, request_fresh batch statement⟩)
  | parameter parameter =>
    cases hvariable : batch.variableOf statement parameter with
    | none =>
      exact Or.inr (Or.inr (Or.inl
        ⟨parameter, rfl, hvariable, request_parameter_of_none hvariable⟩))
    | some id => exact Or.inl (request_parameter_of_some hvariable)
  | concrete ty => exact Or.inl rfl
  | unify l r =>
    have hrequest : batch.request statement (.unify l r) =
        batch.withInference statement ((batch.inferences statement).unify l r).2 :=
      replace_same batch statement _
    rcases hunify : (batch.inferences statement).bindings.unify l r with ⟨_ | c, b⟩
    · refine Or.inl ?_
      obtain rfl := Bindings.unify_error hunify
      rw [hrequest, Inference.unify, hunify]
      exact withInference_self batch statement
    · refine Or.inr (Or.inr (Or.inr ⟨l, r, c, b, rfl, hunify, ?_⟩))
      rw [hrequest, Inference.unify, hunify]

/-! ## The variables of parameters -/

theorem variableOf_withInference_of_ne {inference : Inference} (h : other ≠ statement)
    (parameter : Parameter) :
    (batch.withInference statement inference).variableOf other parameter =
      batch.variableOf other parameter := by
  simp [variableOf, withInference, h]

/-- A change of the bindings leaves all parameters their variables. -/
theorem variableOf_withBindings (b : Bindings) (parameter : Parameter) :
    (batch.withInference statement { batch.inferences statement with bindings := b }).variableOf
      other parameter = batch.variableOf other parameter := by
  by_cases h : other = statement
  · subst h
    simp [variableOf, withInference]
  · exact variableOf_withInference_of_ne h parameter

theorem variableOf_assign {parameter : Parameter} (hnew : batch.variableOf statement parameter = none)
    (p : Parameter) :
    (batch.assign statement parameter).variableOf other p =
      if other = statement ∧ p = parameter then some batch.supply.next
      else batch.variableOf other p := by
  by_cases h : other = statement
  · subst h
    by_cases hp : p = parameter
    · subst hp
      rw [variableOf] at hnew
      simp [assign, variableOf, withInference, List.lookup_append, hnew]
    · have hne : (p == parameter) = false := by simpa using hp
      simp [assign, variableOf, withInference, List.lookup_append, List.lookup_cons, hp, hne]
  · simp only [h, false_and, if_false]
    exact variableOf_withInference_of_ne h p

/-- Only a new parameter gets a variable, the next one. -/
theorem variableOf_request_cases (batch : Batch) (statement : Nat) (request : Request) :
    (∀ other p, (batch.request statement request).variableOf other p = batch.variableOf other p) ∨
    ∃ parameter, request = .parameter parameter ∧ batch.variableOf statement parameter = none ∧
      (batch.request statement request).taken = batch.supply.next :: batch.taken ∧
      ∀ other p, (batch.request statement request).variableOf other p =
        if other = statement ∧ p = parameter then some batch.supply.next
        else batch.variableOf other p := by
  rcases batch.request_cases statement request with h | ⟨-, h⟩ | ⟨parameter, hrequest, hnew, h⟩ |
    ⟨l, r, c, b, -, -, h⟩
  · exact Or.inl fun _ _ => by rw [h]
  · exact Or.inl fun _ _ => by rw [h]; rfl
  · exact Or.inr ⟨parameter, hrequest, hnew, by rw [h]; rfl, fun _ p => by
      rw [h, variableOf_assign hnew]⟩
  · exact Or.inl fun _ p => by rw [h, variableOf_withBindings]

/-- A parameter keeps its variable. -/
theorem variableOf_request_of_eq_some {p : Parameter} {v : VarId}
    (h : batch.variableOf other p = some v) :
    (batch.request statement asked).variableOf other p = some v := by
  rcases batch.variableOf_request_cases statement asked with hkept | ⟨parameter, -, hnew, -, hset⟩
  · rw [hkept, h]
  · rw [hset, if_neg, h]
    rintro ⟨rfl, rfl⟩
    rw [hnew] at h
    cases h

/-- A parameter that is asked for has a variable from then on. -/
theorem variableOf_request_parameter (batch : Batch) (statement : Nat) (p : Parameter) :
    (batch.request statement (.parameter p)).variableOf statement p =
      some ((batch.variableOf statement p).getD batch.supply.next) := by
  cases hp : batch.variableOf statement p with
  | some v => exact variableOf_request_of_eq_some hp
  | none =>
    rw [request_parameter_of_none hp, variableOf_assign hp]
    simp

/-! ## Numbers -/

/-- A request takes no variable or the next one. -/
theorem taken_request_cases (batch : Batch) (statement : Nat) (request : Request) :
    (batch.request statement request).supply = batch.supply ∧
      (batch.request statement request).taken = batch.taken ∨
    (batch.request statement request).supply = batch.supply.fresh.2 ∧
      (batch.request statement request).taken = batch.supply.next :: batch.taken := by
  rcases batch.request_cases statement request with h | ⟨-, h⟩ | ⟨parameter, -, -, h⟩ |
    ⟨l, r, c, b, -, -, h⟩
  · exact Or.inl (by rw [h]; exact ⟨rfl, rfl⟩)
  · exact Or.inr (by rw [h]; exact ⟨rfl, rfl⟩)
  · exact Or.inr (by rw [h]; exact ⟨rfl, rfl⟩)
  · exact Or.inl (by rw [h]; exact ⟨rfl, rfl⟩)

theorem taken_suffix_request (batch : Batch) (statement : Nat) (request : Request) :
    batch.taken <:+ (batch.request statement request).taken := by
  rcases batch.taken_request_cases statement request with ⟨-, h⟩ | ⟨-, h⟩
  · rw [h]
  · rw [h]
    exact List.suffix_cons _ _

/-- What was taken stays taken. -/
theorem taken_suffix_run (batch : Batch) (requests : List (Nat × Request)) :
    batch.taken <:+ (batch.run requests).taken := by
  induction requests generalizing batch with
  | nil => exact List.suffix_refl _
  | cons entry requests ih =>
    exact (batch.taken_suffix_request entry.1 entry.2).trans (ih (batch.request entry.1 entry.2))

/-- The variables that were taken are numbered one after the other, from `first` on. -/
structure Counted (first : VarId) (batch : Batch) : Prop where
  next : batch.supply.next = first + UInt64.ofNat batch.taken.length
  taken : batch.taken =
    (List.range batch.taken.length).reverse.map fun k => first + UInt64.ofNat k

theorem counted_start (supply : Supply) : Counted supply.next { supply } where
  next := by simp
  taken := rfl

theorem Counted.request {first : VarId} (h : Counted first batch) (statement : Nat)
    (request : Request) : Counted first (batch.request statement request) := by
  rcases batch.taken_request_cases statement request with ⟨hsupply, htaken⟩ | ⟨hsupply, htaken⟩
  · exact ⟨by rw [hsupply, htaken, h.next], by rw [htaken, ← h.taken]⟩
  · constructor
    · rw [hsupply, htaken]
      show batch.supply.next + 1 = first + UInt64.ofNat (batch.taken.length + 1)
      rw [h.next, UInt64.ofNat_add, UInt64.add_assoc]
      rfl
    · rw [htaken, List.length_cons, List.range_succ, List.reverse_append, List.reverse_singleton,
        List.singleton_append, List.map_cons, ← h.taken, ← h.next]

/-- Fewer numbers than there are do not repeat. -/
theorem nodup_numbers (first : VarId) {n : Nat} (h : n ≤ 2 ^ 64) :
    ((List.range n).reverse.map fun k => first + UInt64.ofNat k).Nodup := by
  refine List.Nodup.map_on ?_ (List.nodup_reverse.mpr List.nodup_range)
  intro k hk m hm heq
  rw [List.mem_reverse, List.mem_range] at hk hm
  have hnumber : (UInt64.ofNat k).toNat = (UInt64.ofNat m).toNat := by
    rw [(UInt64.add_right_inj first).mp heq]
  have hsize : UInt64.size = 2 ^ 64 := rfl
  rwa [UInt64.toNat_ofNat_of_lt' (by omega), UInt64.toNat_ofNat_of_lt' (by omega)] at hnumber

theorem Counted.nodup {first : VarId} (h : Counted first batch) (hfew : batch.taken.length < 2 ^ 64) :
    (batch.supply.next :: batch.taken).Nodup := by
  have hnumbers := nodup_numbers first (n := batch.taken.length + 1) (by omega)
  rwa [List.range_succ, List.reverse_append, List.reverse_singleton, List.singleton_append,
    List.map_cons, ← h.taken, ← h.next] at hnumbers

/-- As long as the numbers last the next variable is new. -/
theorem Counted.next_not_mem {first : VarId} (h : Counted first batch)
    (hfew : batch.taken.length < 2 ^ 64) : batch.supply.next ∉ batch.taken :=
  (List.nodup_cons.mp (h.nodup hfew)).1

/-- What requests keep as long as the next variable is new, a run keeps. -/
theorem run_induction {P : Batch → Prop} {first : VarId}
    (hstep : ∀ batch statement request, batch.supply.next ∉ batch.taken → P batch →
      P (batch.request statement request))
    (hcounted : Counted first batch) (hbatch : P batch)
    (hfew : (batch.run requests).taken.length < 2 ^ 64) :
    Counted first (batch.run requests) ∧ P (batch.run requests) := by
  induction requests generalizing batch with
  | nil => exact ⟨hcounted, hbatch⟩
  | cons entry requests ih =>
    have hlength := (batch.taken_suffix_run (entry :: requests)).length_le
    have hnew := hcounted.next_not_mem (by omega)
    exact ih (hcounted.request entry.1 entry.2) (hstep batch entry.1 entry.2 hnew hbatch) hfew

/-! ## Who has which variable -/

/-- The variables of parameters were taken from the supply, each for one parameter of one
statement. -/
structure Assigned (batch : Batch) : Prop where
  mem_taken : ∀ i p v, batch.variableOf i p = some v → v ∈ batch.taken
  unique : ∀ i p j q v, batch.variableOf i p = some v → batch.variableOf j q = some v →
    i = j ∧ p = q

theorem assigned_start (supply : Supply) : Assigned { supply } where
  mem_taken _ _ _ h := by cases h
  unique _ _ _ _ _ h := by cases h

theorem Assigned.request (hnew : batch.supply.next ∉ batch.taken) (h : batch.Assigned) :
    (batch.request statement asked).Assigned := by
  rcases batch.variableOf_request_cases statement asked with hkept | ⟨parameter, -, -, htaken, hset⟩
  · constructor
    · intro i p v hv
      rw [hkept] at hv
      exact (batch.taken_suffix_request statement asked).subset (h.mem_taken i p v hv)
    · intro i p j q v hv hv'
      rw [hkept] at hv hv'
      exact h.unique i p j q v hv hv'
  · constructor
    · intro i p v hv
      rw [hset] at hv
      rw [htaken]
      split at hv
      · cases hv
        exact List.mem_cons_self
      · exact List.mem_cons_of_mem _ (h.mem_taken i p v hv)
    · intro i p j q v hv hv'
      rw [hset] at hv hv'
      -- two old parameters, or one of them is new and has a variable that no old one has
      split at hv
      · next hnewer =>
        cases hv
        split at hv'
        · next hnewer' => exact ⟨hnewer.1.trans hnewer'.1.symm, hnewer.2.trans hnewer'.2.symm⟩
        · exact absurd (h.mem_taken j q _ hv') hnew
      · split at hv'
        · cases hv'
          exact absurd (h.mem_taken i p _ hv) hnew
        · exact h.unique i p j q v hv hv'

/-- The variable was taken from the supply and is not that of a parameter. -/
structure Anonymous (v : VarId) (batch : Batch) : Prop where
  mem_taken : v ∈ batch.taken
  not_assigned : ∀ i p, batch.variableOf i p ≠ some v

theorem Anonymous.request {v : VarId} (hnew : batch.supply.next ∉ batch.taken)
    (h : Anonymous v batch) : Anonymous v (batch.request statement asked) where
  mem_taken := (batch.taken_suffix_request statement asked).subset h.mem_taken
  not_assigned := by
    intro i p hv
    rcases batch.variableOf_request_cases statement asked with hkept | ⟨parameter, -, -, -, hset⟩
    · rw [hkept] at hv
      exact h.not_assigned i p hv
    · rw [hset] at hv
      split at hv
      · cases hv
        exact hnew h.mem_taken
      · exact h.not_assigned i p hv

/-! ## What two requests are handed -/

/-- The variable is what the statement was handed for the request: that of the parameter that it
asked for, or one without a parameter. -/
inductive Held (statement : Nat) (v : VarId) (batch : Batch) : Request → Prop where
  | fresh (h : Anonymous v batch) : Held statement v batch .fresh
  | parameter {p : Parameter} (h : batch.variableOf statement p = some v) :
      Held statement v batch (.parameter p)

theorem Held.request {i : Nat} {r : Request} {v : VarId} (hnew : batch.supply.next ∉ batch.taken)
    (h : Held i v batch r) : Held i v (batch.request statement asked) r := by
  cases h with
  | fresh h => exact .fresh (h.request hnew)
  | parameter h => exact .parameter (variableOf_request_of_eq_some h)

/-- A statement that was handed a variable holds it. -/
theorem Assigned.held {v : VarId} (h : batch.Assigned) (hnew : batch.supply.next ∉ batch.taken)
    (hv : batch.handed statement asked = some (.var v)) :
    Held statement v (batch.request statement asked) asked := by
  cases asked with
  | fresh =>
    cases hv
    rw [request_fresh]
    exact .fresh ⟨List.mem_cons_self, fun i p hv => hnew (h.mem_taken i p _ hv)⟩
  | parameter p =>
    rw [handed_parameter, Option.some.injEq, InferredType.var.injEq] at hv
    exact .parameter (by rw [variableOf_request_parameter, hv])
  | unify l r => cases hv
  | concrete ty => cases hv

theorem Assigned.mem_taken_of_held {i : Nat} {r : Request} {v : VarId} (h : batch.Assigned)
    (hheld : Held i v batch r) : v ∈ batch.taken := by
  cases hheld with
  | fresh hv => exact hv.mem_taken
  | parameter hv => exact h.mem_taken _ _ _ hv

/-- A request is handed a variable that is held exactly if it was handed out to the same statement
for the same parameter. -/
theorem Assigned.handed_eq_iff {i : Nat} {r : Request} {v w : VarId} (h : batch.Assigned)
    (hnew : batch.supply.next ∉ batch.taken) (hheld : Held i v batch r)
    (hw : batch.handed statement asked = some (.var w)) :
    v = w ↔ i = statement ∧ ∃ p, r = .parameter p ∧ asked = .parameter p := by
  have hne : v ≠ batch.supply.next := by
    rintro rfl
    exact hnew (h.mem_taken_of_held hheld)
  cases asked with
  | fresh =>
    cases hw
    simpa [Supply.fresh] using hne
  | parameter q =>
    rw [handed_parameter, Option.some.injEq, InferredType.var.injEq] at hw
    subst hw
    cases hheld with
    | fresh hv =>
      -- the variable that is handed out is new or that of a parameter
      cases hq : batch.variableOf statement q with
      | none => simpa using hne
      | some w =>
        have hvw : v ≠ w := fun heq => hv.not_assigned statement q (heq ▸ hq)
        simpa using hvw
    | @parameter p hv =>
      constructor
      · intro heq
        cases hq : batch.variableOf statement q with
        | none =>
          rw [hq] at heq
          exact absurd heq hne
        | some w =>
          rw [hq, Option.getD_some] at heq
          obtain ⟨rfl, rfl⟩ := h.unique _ _ _ _ _ hv (heq ▸ hq)
          exact ⟨rfl, p, rfl, rfl⟩
      · rintro ⟨rfl, p', hp, hq⟩
        cases hp
        cases hq
        rw [hv, Option.getD_some]
  | unify l r => cases hw
  | concrete ty => cases hw

theorem counted_run (supply : Supply) (hfew : (run { supply } requests).taken.length < 2 ^ 64) :
    Counted supply.next (run { supply } requests) ∧ (run { supply } requests).Assigned :=
  run_induction (fun _ _ _ hnew h => h.request hnew) (counted_start supply) (assigned_start supply)
    hfew

/-- The numbers last for the beginning of a run for which they last. -/
theorem few_of_append {supply : Supply} {before rest : List (Nat × Request)}
    (hfew : (run { supply } (before ++ rest)).taken.length < 2 ^ 64) :
    (run { supply } before).taken.length < 2 ^ 64 := by
  rw [run_append] at hfew
  exact lt_of_le_of_lt (taken_suffix_run _ rest).length_le hfew

/-- The requests have a beginning `before`, after which the statement makes the request and is
handed the variable. -/
structure HandsOut (supply : Supply) (requests before : List (Nat × Request)) (statement : Nat)
    (asked : Request) (v : VarId) : Prop where
  made : before ++ [(statement, asked)] <+: requests
  handed : (run { supply } before).handed statement asked = some (.var v)

/-- Of two requests the later is handed the variable of the earlier exactly if both are of one
statement and for one parameter. -/
theorem HandsOut.eq_iff {supply : Supply} {before later : List (Nat × Request)} {i j : Nat}
    {r q : Request} {v w : VarId} (hfew : (run { supply } requests).taken.length < 2 ^ 64)
    (h : HandsOut supply requests before i r v) (h' : HandsOut supply requests later j q w)
    (hlt : before.length < later.length) :
    v = w ↔ i = j ∧ ∃ p, r = .parameter p ∧ q = .parameter p := by
  obtain ⟨between, rfl⟩ : before ++ [(i, r)] <+: later :=
    List.prefix_of_prefix_length_le h.made ((List.prefix_append _ _).trans h'.made)
      (by simpa [Nat.succ_le_iff] using hlt)
  obtain ⟨rest, rfl⟩ := h'.made
  rw [List.append_assoc] at hfew
  have hlater := few_of_append hfew
  have hbefore := few_of_append (few_of_append hlater)
  have hw := h'.handed
  rw [run_append, run_append] at hlater hw
  -- the variable of the earlier request is held from then on, up to the later one
  obtain ⟨hcounted, hassigned⟩ := counted_run supply hbefore
  have hnew := hcounted.next_not_mem hbefore
  obtain ⟨hcounted', hassigned', hheld⟩ := run_induction
    (P := fun batch => batch.Assigned ∧ Held i v batch r)
    (fun _ _ _ hnew h => ⟨h.1.request hnew, h.2.request hnew⟩)
    (hcounted.request i r) ⟨hassigned.request hnew, hassigned.held hnew h.handed⟩ hlater
  exact hassigned'.handed_eq_iff (hcounted'.next_not_mem hlater) hheld hw

end Batch

end QueryTyping
