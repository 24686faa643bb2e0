import QueryTyping.Proofs.Inference.Loops

/-!
# Failed unifications

A unification that fails leaves no trace, however deep in the casts of the two types the clash was
found (`Session.failed_unify_leaves_no_trace`). So a run comes to the same session without the
unifications that failed in it (`Session.run_successes`).

The bindings are written in two places: where a variable is bound, which is the last thing that can
fail, and on the way back from a success. This is also how the loop runs that looks at the bindings
again at each step, so it too ends with the bindings that it was given.
-/

namespace QueryTyping

theorem Inference.unify_error {inference inference' : Inference} {l r : InferredType}
    {error : TypeError} (h : inference.unify l r = (.error error, inference')) :
    inference.bindings.unify l r = (.error error, inference.bindings) ∧
      inference' = inference := by
  rcases hunify : inference.bindings.unify l r with ⟨outcome, bindings⟩
  simp only [Inference.unify, hunify, Prod.mk.injEq] at h
  obtain ⟨rfl, rfl⟩ := h
  obtain rfl := Bindings.unify_error hunify
  exact ⟨rfl, rfl⟩

namespace Session

variable {s : Session}

/-- Whether a call is a unification that fails. -/
def fails (s : Session) : Call → Bool
  | .unify left right => !(s.inference.unify left right).1.isOk
  | _ => false

/-- The calls of a run without the unifications that fail in it. -/
def successes (s : Session) : List Call → List Call
  | [] => []
  | call :: calls =>
    if s.fails call then s.successes calls else call :: (s.call call).successes calls

theorem call_unify_error {l r : InferredType} {error : TypeError} {inference : Inference}
    (h : s.inference.unify l r = (.error error, inference)) : s.call (.unify l r) = s := by
  obtain rfl := (Inference.unify_error h).2
  rw [Session.call, h]

theorem call_of_fails {call : Call} (h : s.fails call) : s.call call = s := by
  cases call with
  | fresh => cases h
  | parameter parameter => cases h
  | others supply => cases h
  | unify l r =>
    rcases hunify : s.inference.unify l r with ⟨outcome, inference⟩
    cases outcome with
    | ok c => simp [fails, hunify, Except.isOk, Except.toBool] at h
    | error error => exact call_unify_error hunify

/-- A run comes to the same session without its failures. -/
theorem run_successes (s : Session) (calls : List Call) :
    s.run (s.successes calls) = s.run calls := by
  induction calls generalizing s with
  | nil => rfl
  | cons call calls ih =>
    rw [successes, run_cons]
    split
    · next hfails => rw [call_of_fails hfails, ih]
    · rw [run_cons, ih]

/-- A unification that fails, in any session that is reached, leaves the bindings and the parameters
as they were, and so all column types that are read from them; looking at the bindings again at each
step ends with the same error and the same bindings; and what is called after it comes to the same
session as without it. -/
theorem failed_unify_leaves_no_trace (hs : s.Reachable) {l r : InferredType} {error : TypeError}
    {inference : Inference} (h : s.inference.unify l r = (.error error, inference)) :
    inference.bindings = s.bindings ∧
      inference.parameterVariables = s.inference.parameterVariables ∧
      (∀ ty, inference.concrete ty = s.inference.concrete ty) ∧
      inference.parameterTypes = s.inference.parameterTypes ∧
      Ends (s.bindings.unifyLoop · l r) (.error error, s.bindings) ∧
      ∀ calls, s.run (.unify l r :: calls) = s.run calls := by
  obtain ⟨hunify, rfl⟩ := Inference.unify_error h
  refine ⟨rfl, rfl, fun _ => rfl, rfl, ?_, fun calls => ?_⟩
  · exact hunify ▸ hs.acyclic.unifyLoop_ends l r
  · rw [run_cons, call_unify_error h]

/-- A parameter is a cast whose result is an integer; a text under two casts clashes with it. -/
theorem failed_unify_leaves_no_trace_under_casts :
    let s := run {} [
      .parameter (.positional 1),
      .unify (.var 0) (.cast (.var 1) (.var 2)),
      .unify (.var 2) (.column (.notNull .integer))]
    let text := InferredType.cast (.var 3) (.cast (.var 4) (.column (.notNull .string)))
    let after := (s.inference.unify text (.var 0)).2
    s.Reachable ∧
      (s.inference.unify text (.var 0)).1 = .error (.incompatible "INTEGER" "TEXT") ∧
      after.bindings = s.bindings ∧
      after.parameterTypes = [(.positional 1, .orNull .integer)] := by
  intro s text after
  have hs : s.Reachable := ⟨_, _, rfl⟩
  have herror : (s.inference.unify text (.var 0)).1 = .error (.incompatible "INTEGER" "TEXT") := by
    decide +kernel
  obtain ⟨hbindings, -, -, htypes, -⟩ := failed_unify_leaves_no_trace hs (Prod.ext herror rfl)
  refine ⟨hs, herror, hbindings, htypes.trans ?_⟩
  decide +kernel

end Session

end QueryTyping
