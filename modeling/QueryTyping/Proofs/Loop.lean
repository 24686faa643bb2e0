/-!
# Loops that are cut off

A loop need not end. It is given a number of steps, after which it is cut off without a result, and
it ends (`Ends`) if every number of steps from some point on is enough.
-/

namespace QueryTyping

variable {α β : Type} {loop : Nat → Option α} {x y : α}

/-- A loop ends with a result if it has it whenever it is given enough steps. -/
def Ends (loop : Nat → Option α) (result : α) : Prop :=
  ∃ enough, ∀ steps, enough ≤ steps → loop steps = some result

@[simp]
theorem ends_const : Ends (fun _ => some x) y ↔ x = y := by
  constructor
  · rintro ⟨enough, h⟩
    exact Option.some.inj (h enough (Nat.le_refl enough))
  · rintro rfl
    exact ⟨0, fun _ _ => rfl⟩

theorem Ends.succ (h : Ends (fun steps => loop (steps + 1)) x) : Ends loop x := by
  obtain ⟨enough, h⟩ := h
  refine ⟨enough + 1, fun steps hsteps => ?_⟩
  cases steps with
  | zero => omega
  | succ steps => exact h steps (by omega)

/-- After a loop that ends comes whatever is done with its result. -/
theorem Ends.bind_iff {next : α → Nat → Option β} {z : β} (h : Ends loop x) :
    Ends (fun steps => loop steps >>= fun a => next a steps) z ↔ Ends (next x) z := by
  obtain ⟨enough, h⟩ := h
  constructor
  · rintro ⟨enough', hnext⟩
    refine ⟨max enough enough', fun steps hsteps => ?_⟩
    simpa [h steps (by omega)] using hnext steps (by omega)
  · rintro ⟨enough', hnext⟩
    refine ⟨max enough enough', fun steps hsteps => ?_⟩
    simpa [h steps (by omega)] using hnext steps (by omega)

end QueryTyping
