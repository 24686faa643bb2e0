/-!
# Ranges of characters

A set of characters is given by ranges of code points, with both ends included.
-/

namespace QueryTyping.Text

/-- Whether a character lies in one of the ranges. -/
def inRanges (ranges : List (Nat × Nat)) (c : Char) : Bool :=
  ranges.any (fun range => range.1 ≤ c.toNat && c.toNat ≤ range.2)

end QueryTyping.Text
