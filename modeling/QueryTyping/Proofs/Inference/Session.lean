import QueryTyping.Proofs.Inference.Unification

/-!
# Runs of an inference

A session is an inference together with the supply that it takes its variables from. It is reached
from the inference that knows nothing by calls: taking a variable, asking for a parameter and
unifying two types, which may be any two types and may fail. The supply is shared, so other
inferences may take variables between two calls.

Only a successful unification changes the bindings (`Session.run_induction`), and in every session
that is reached they are acyclic (`Session.Reachable.acyclic`).
-/

namespace QueryTyping

/-- An inference with the supply that it takes its variables from. -/
structure Session where
  inference : Inference := .empty
  supply : Supply := {}
  deriving DecidableEq

theorem Inference.bindings_unify {inference inference' : Inference} {l r c : InferredType}
    (h : inference.unify l r = (.ok c, inference')) :
    inference.bindings.unify l r = (.ok c, inference'.bindings) := by
  simp only [Inference.unify, Prod.mk.injEq] at h
  obtain ⟨houtcome, rfl⟩ := h
  exact Prod.ext houtcome rfl

/-- What can happen to an inference. -/
inductive Call where
  /-- A fresh variable is taken. -/
  | fresh
  /-- The variable of a parameter is asked for. -/
  | parameter (parameter : Parameter)
  /-- Two types are unified. -/
  | unify (left right : InferredType)
  /-- Other inferences take variables; the supply is as they leave it. -/
  | others (supply : Supply)

namespace Session

/-- What the variables of the session stand for. -/
abbrev bindings (s : Session) : Bindings := s.inference.bindings

/-- The session after a call. -/
def call (s : Session) : Call → Session
  | .fresh => { s with supply := s.supply.fresh.2 }
  | .parameter parameter =>
    let (_, inference, supply) := s.inference.parameter s.supply parameter
    { inference, supply }
  | .unify left right => { s with inference := (s.inference.unify left right).2 }
  | .others supply => { s with supply }

/-- The session after some calls. -/
def run (s : Session) (calls : List Call) : Session := calls.foldl call s

/-- The session is reached from an inference that knows nothing. -/
def Reachable (s : Session) : Prop := ∃ supply calls, s = run { supply } calls

@[simp] theorem run_nil (s : Session) : s.run [] = s := rfl

@[simp] theorem run_cons (s : Session) (call : Call) (calls : List Call) :
    s.run (call :: calls) = (s.call call).run calls := rfl

theorem run_append (s : Session) (calls calls' : List Call) :
    s.run (calls ++ calls') = (s.run calls).run calls' := by
  simp [run, List.foldl_append]

/-- What is reached from a session that is reached is reached itself. -/
theorem Reachable.run {s : Session} (h : s.Reachable) (calls : List Call) :
    (s.run calls).Reachable := by
  obtain ⟨supply, calls', rfl⟩ := h
  exact ⟨supply, calls' ++ calls, (run_append _ _ _).symm⟩

theorem Reachable.call {s : Session} (h : s.Reachable) (call : Call) : (s.call call).Reachable :=
  h.run [call]

/-- A call keeps the bindings, unless it unifies two types with success. -/
theorem call_bindings (s : Session) (call : Call) :
    (s.call call).bindings = s.bindings ∨
      ∃ l r c, call = .unify l r ∧ s.bindings.unify l r = (.ok c, (s.call call).bindings) := by
  cases call with
  | fresh => exact Or.inl rfl
  | others supply => exact Or.inl rfl
  | parameter parameter =>
    refine Or.inl ?_
    simp only [Session.call, Inference.parameter]
    split <;> rfl
  | unify l r =>
    rcases hunify : s.bindings.unify l r with ⟨outcome, b'⟩
    have hcall : (s.call (.unify l r)).bindings = b' := by
      simp [Session.call, Inference.unify, hunify]
    cases outcome with
    | error error => exact Or.inl (hcall.trans (Bindings.unify_error hunify))
    | ok c => exact Or.inr ⟨l, r, c, rfl, by rw [hunify, hcall]⟩

/-- What the successful unifications of a run keep, the run keeps. -/
theorem run_induction_of_mem {P : Bindings → Prop} {s : Session} {calls : List Call}
    (hstep : ∀ b l r c b', .unify l r ∈ calls → b.Acyclic → P b → b.unify l r = (.ok c, b') → P b')
    (hacyclic : s.bindings.Acyclic) (hs : P s.bindings) :
    (s.run calls).bindings.Acyclic ∧ P (s.run calls).bindings := by
  induction calls generalizing s with
  | nil => exact ⟨hacyclic, hs⟩
  | cons call calls ih =>
    have ih {s : Session} := ih (s := s) fun b l r c b' hmem =>
      hstep b l r c b' (List.mem_cons_of_mem call hmem)
    -- the bindings are as before, or two types were unified
    rcases s.call_bindings call with heq | ⟨l, r, c, rfl, hunify⟩
    · exact ih (heq ▸ hacyclic) (heq ▸ hs)
    · exact ih (hacyclic.of_unify hunify)
        (hstep _ l r c _ List.mem_cons_self hacyclic hs hunify)

/-- What successful unifications keep, runs keep. -/
theorem run_induction {P : Bindings → Prop} {s : Session}
    (hstep : ∀ b l r c b', b.Acyclic → P b → b.unify l r = (.ok c, b') → P b')
    (hacyclic : s.bindings.Acyclic) (hs : P s.bindings) (calls : List Call) :
    (s.run calls).bindings.Acyclic ∧ P (s.run calls).bindings :=
  run_induction_of_mem (fun b l r c b' _ => hstep b l r c b') hacyclic hs

/-- In no session that is reached does a variable lead back to itself. -/
theorem Reachable.acyclic {s : Session} (h : s.Reachable) : s.bindings.Acyclic := by
  obtain ⟨supply, calls, rfl⟩ := h
  exact (run_induction (P := fun _ => True) (fun _ _ _ _ _ _ _ _ => trivial)
    Bindings.acyclic_empty trivial calls).1

end Session

end QueryTyping
