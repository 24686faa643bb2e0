/-!
# Edit distance

The number of single-character insertions, deletions and substitutions that lead from one text to
another, computed row by row. The row of a text `a` against a text `b` holds the distances of `a`
to every beginning of `b`, shortest first; lengthening `a` by a character gives the next row, for
which only the previous one is needed. The shorter of the two texts lies along the rows.
-/

namespace QueryTyping.Text

/-- The cells of the next row after its first one. `left` is the cell before, `corner` the cell of
the previous row above that, and `above` the rest of the previous row. -/
def nextCells (c : Char) : (left corner : Nat) → List Char → (above : List Nat) → List Nat
  | left, corner, d :: ds, up :: ups =>
    let cell := min (min (up + 1) (left + 1)) (corner + if c = d then 0 else 1)
    cell :: nextCells c cell up ds ups
  | _, _, _, _ => []

/-- The row of a text lengthened by `c`, from the row of the text. -/
def nextRow (across : List Char) (row : List Nat) (c : Char) : List Nat :=
  match row with
  | [] => []
  | corner :: above => (corner + 1) :: nextCells c (corner + 1) corner across above

/-- The row of the empty text: a beginning of `across` is as far as it is long. -/
def firstRow (across : List Char) : List Nat := List.range (across.length + 1)

/-- The last cell of the row of `down`, its distance to the whole of `across`. -/
def rowDistance (down across : List Char) : Nat :=
  (down.foldl (nextRow across) (firstRow across)).getLastD 0

/-- The edit distance of two texts. -/
def editDistance (a b : List Char) : Nat :=
  if a.length < b.length then rowDistance b a else rowDistance a b

end QueryTyping.Text
