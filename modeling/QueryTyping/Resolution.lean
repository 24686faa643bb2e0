import QueryTyping.Error

/-!
# Outcomes of a look-up

Looking up a name finds one thing, finds nothing, or finds more than one. A failed look-up says
why, in a problem of type `ε`; a look-up that found nothing may be tried again elsewhere, one that
found more than one thing may not.
-/

namespace QueryTyping

/-- A problem that can be put in words. -/
class Worded (ε : Type) where
  /-- The wording. -/
  message : ε → String

instance : Worded String := ⟨id⟩

/-- The outcome of looking up a name. -/
inductive Resolution (ε α : Type) where
  | found (value : α)
  | notFound (problem : ε)
  | ambiguous (problem : ε)
  deriving DecidableEq

namespace Resolution

variable {ε α β : Type}

/-- Whether one thing was found. -/
def isFound : Resolution ε α → Bool
  | found _ => true
  | _ => false

/-- Whether nothing was found. -/
def isNotFound : Resolution ε α → Bool
  | notFound _ => true
  | _ => false

/-- Whether more than one thing was found. -/
def isAmbiguous : Resolution ε α → Bool
  | ambiguous _ => true
  | _ => false

/-- What was found. -/
def found? : Resolution ε α → Option α
  | found value => some value
  | _ => none

/-- Why the look-up failed. -/
def problem? : Resolution ε α → Option ε
  | found _ => none
  | notFound problem | ambiguous problem => some problem

/-- Changes what was found. -/
def map (f : α → β) : Resolution ε α → Resolution ε β
  | found value => found (f value)
  | notFound problem => notFound problem
  | ambiguous problem => ambiguous problem

/-- Goes on with a look-up in what was found. -/
def andThen (resolution : Resolution ε α) (f : α → Resolution ε β) : Resolution ε β :=
  match resolution with
  | found value => f value
  | notFound problem => notFound problem
  | ambiguous problem => ambiguous problem

/-- Tries elsewhere if nothing was found. -/
def orElse (resolution : Resolution ε α) (f : ε → Resolution ε α) : Resolution ε α :=
  match resolution with
  | notFound problem => f problem
  | other => other

/-- Changes why nothing was found. -/
def mapNotFound (f : ε → ε) : Resolution ε α → Resolution ε α
  | notFound problem => notFound (f problem)
  | other => other

/-- What was found, or an error at a place in the query. -/
def foundAt [Worded ε] (span : Span) : Resolution ε α → Except SemanticError α
  | found value => .ok value
  | notFound problem => .error (.notFound span (Worded.message problem))
  | ambiguous problem => .error (.ambiguous span (Worded.message problem))

end Resolution

end QueryTyping
