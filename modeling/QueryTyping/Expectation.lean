import QueryTyping.Resolution
import QueryTyping.Text.Quoted
import QueryTyping.TypeName

/-!
# Expectations on look-ups

Checks of what a look-up or an error should be. A check that fails says what was expected and what
was there instead.
-/

namespace QueryTyping

namespace Resolution

variable {α : Type}

/-- The outcome of a look-up as it is written in a report. -/
def report (showValue : α → String) : Resolution String α → String
  | found value => "Found(" ++ showValue value ++ ")"
  | notFound problem => "NotFound(" ++ Text.quoted problem ++ ")"
  | ambiguous problem => "Ambiguous(" ++ Text.quoted problem ++ ")"

/-- Expects that one thing was found, and yields it. -/
def expectFound (showValue : α → String) (resolution : Resolution String α) : Except String α :=
  match resolution with
  | found value => .ok value
  | other => .error ("Expected Found, got " ++ other.report showValue)

/-- Expects that the problem of a failed look-up mentions a text. A look-up that did not fail has
an empty problem. -/
def expectMention (resolution : Resolution String α) (text : String) : Except String Unit :=
  let problem := resolution.problem?.getD ""
  if Text.contains text.toList problem.toList then .ok ()
  else .error ("Expected message to contain '" ++ text ++ "', found '" ++ problem ++ "'")

/-- Expects that nothing was found and that the problem mentions a name. -/
def expectNotFound (showValue : α → String) (resolution : Resolution String α) (name : String) :
    Except String Unit :=
  if resolution.isNotFound then resolution.expectMention name
  else .error ("Expected NotFound, got " ++ resolution.report showValue)

/-- Expects that more than one thing was found and that the problem mentions all candidates. -/
def expectAmbiguous (showValue : α → String) (resolution : Resolution String α)
    (candidates : List String) : Except String Unit :=
  if resolution.isAmbiguous then candidates.forM resolution.expectMention
  else .error ("Expected Ambiguous, got " ++ resolution.report showValue)

end Resolution

/-- Expects an error of a given sort. -/
def SemanticError.expectKind (error : SemanticError) (kind : ErrorKind) : Except String Unit :=
  if error.kind = kind then .ok ()
  else
    .error ("assertion `left == right` failed: Error kind mismatch for '" ++ error.message
      ++ "'\n  left: " ++ error.kind.render ++ "\n right: " ++ kind.render)

end QueryTyping
