/-!
# Places in the text of a query

A place is given by two offsets. Nothing keeps the second from lying before the first; such a
place is empty.
-/

namespace QueryTyping

/-- A stretch of the text of a query, from `start` up to but without `stop`. -/
structure Span where
  /-- The offset of its first position. -/
  start : UInt64
  /-- The offset behind its last position. -/
  stop : UInt64
  deriving DecidableEq

namespace Span

/-- How many positions the stretch has; none if it stops before it starts. -/
def length (span : Span) : UInt64 :=
  if span.start ≤ span.stop then span.stop - span.start else 0

/-- Whether the stretch has no position. -/
def isEmpty (span : Span) : Bool := span.length == 0

/-- The two offsets with two points between them. -/
def render (span : Span) : String :=
  toString span.start.toNat ++ ".." ++ toString span.stop.toNat

end Span

end QueryTyping
