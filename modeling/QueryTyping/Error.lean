import QueryTyping.Span

/-!
# Errors of typing and name look-up

A type error says what does not fit; its wording is `TypeError.message`. An error that is
reported to the author of a query also says where (`SemanticError`).
-/

namespace QueryTyping

/-- What sort of error was met. -/
inductive ErrorKind where
  | notFound
  | ambiguous
  | incompatible
  | arityMismatch
  deriving DecidableEq

/-- The name of a sort of error. -/
def ErrorKind.render : ErrorKind → String
  | notFound => "NotFound"
  | ambiguous => "Ambiguous"
  | incompatible => "Incompatible"
  | arityMismatch => "ArityMismatch"

/-- Why the parts of a query do not fit together. -/
inductive TypeError where
  /-- No value has both types, which are given as they are shown. -/
  | incompatible (left right : String)
  /-- A query of `expected` columns was given `found` names. -/
  | arityMismatch (expected found : Nat)
  /-- Two sources of one FROM clause, or two common table expressions, have one name. -/
  | duplicateSource (name : String)
  deriving DecidableEq

namespace TypeError

/-- The wording of a type error. -/
def message : TypeError → String
  | incompatible left right =>
    "Type mismatch: " ++ left ++ " is not compatible with " ++ right
  | arityMismatch expected found =>
    "Column count mismatch: query has " ++ toString expected ++ " columns but "
      ++ toString found ++ " names were given"
  | duplicateSource name => "Duplicate table name or alias in FROM clause: " ++ name

/-- A name that stands for two sources is ambiguous. -/
def kind : TypeError → ErrorKind
  | incompatible _ _ => .incompatible
  | arityMismatch _ _ => .arityMismatch
  | duplicateSource _ => .ambiguous

end TypeError

/-- An error with its place in the query. -/
inductive SemanticError where
  /-- A name stands for nothing. -/
  | notFound (span : Span) (message : String)
  /-- A name stands for more than one thing. -/
  | ambiguous (span : Span) (message : String)
  /-- The types at this place do not fit. -/
  | type (span : Span) (error : TypeError)
  deriving DecidableEq

namespace SemanticError

/-- Where the error is. -/
def span : SemanticError → Span
  | notFound span _ | ambiguous span _ | type span _ => span

/-- What sort of error it is. -/
def kind : SemanticError → ErrorKind
  | notFound _ _ => .notFound
  | ambiguous _ _ => .ambiguous
  | type _ error => error.kind

/-- The wording of the error: its place, then what is wrong there. -/
def message : SemanticError → String
  | notFound span message | ambiguous span message => span.render ++ ": " ++ message
  | type span error => span.render ++ ": " ++ error.message

end SemanticError

end QueryTyping
