import QueryTyping.Text.EditDistance
import QueryTyping.Text.LowerCase

/-!
# Suggestions for names that were not found

Names that are close to a name that was looked up: their edit distance, letter case apart, is
small. The closest come first; among equally close ones the order of code points decides.
-/

namespace QueryTyping

/-- Which names are suggested. -/
structure SuggestionConfig where
  /-- Whether names are suggested at all. -/
  enabled : Bool := true
  /-- How far a suggested name may be. -/
  maxDistance : UInt64 := 2
  /-- How many names are suggested at most. -/
  maxSuggestions : UInt64 := 3
  deriving DecidableEq

instance : Inhabited SuggestionConfig := ⟨{}⟩

/-- How far two names are apart, letter case not counted. -/
def nameDistance (a b : String) : Nat :=
  Text.editDistance (Text.lowerCase a.toList) (Text.lowerCase b.toList)

/-- The smaller distance comes first, then the smaller name. -/
def closerEq (a b : Nat × String) : Bool :=
  a.1 < b.1 || (a.1 == b.1 && a.2 ≤ b.2)

/-- Drops every entry whose name is that of the entry before it. -/
def dropRepeats : List (Nat × String) → List (Nat × String)
  | [] => []
  | entry :: rest => entry :: (dropRepeats rest).dropWhile (·.2 == entry.2)

/-- The names among the candidates that are close to a name and not the name itself, closest
first, each once. -/
def suggest (config : SuggestionConfig) (name : String) (candidates : List String) : List String :=
  if config.enabled && config.maxSuggestions != 0 then
    let others := candidates.filter (· != name)
    let scored := others.map fun candidate => (nameDistance name candidate, candidate)
    let close := scored.filter (·.1 ≤ config.maxDistance.toNat)
    ((dropRepeats (close.mergeSort closerEq)).take config.maxSuggestions.toNat).map (·.2)
  else []

end QueryTyping
