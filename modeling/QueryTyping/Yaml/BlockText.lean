import QueryTyping.Yaml.Scalar

/-!
# Scalars in block style

A scalar in block style begins with a header, the bar or angle bracket and what stands behind it on
its line, and holds the indented lines below. After a bar the lines are kept as they are. After an
angle bracket a line break counts as in other scalars, unless a line beside it begins with white
space. The header may say how deeply the lines are indented, which is otherwise up to the first line
that is not empty, and what becomes of the line breaks at the end.
-/

namespace QueryTyping

namespace Yaml

/-- What becomes of the line breaks at the end of a scalar in block style. -/
inductive Chomping where
  /-- None is kept. -/
  | strip
  /-- The end of the last line is kept. -/
  | clip
  /-- The ends of the empty lines below are kept too. -/
  | keep

/-- What the header of a scalar in block style says. -/
structure BlockHeader where
  /-- Whether line breaks inside the text are folded. -/
  folded : Bool
  chomping : Chomping
  /-- How much more deeply the text is indented than what surrounds it. -/
  increment : Option Nat

/-- Whether only white space and a comment follow on a line. -/
def endsLine (line : List Char) : Bool :=
  match line.dropWhile isBlank with
  | [] => true
  | c :: _ => c = '#'

namespace BlockHeader

/-- Takes the sign for the line breaks at the end. -/
def takeChomping : List Char → Option Chomping × List Char
  | '-' :: rest => (some .strip, rest)
  | '+' :: rest => (some .keep, rest)
  | line => (none, line)

/-- Takes the digit for the indentation. -/
def takeIncrement : List Char → Option Nat × List Char
  | c :: rest => if c.isDigit then (some (c.toNat - '0'.toNat), rest) else (none, c :: rest)
  | [] => (none, [])

/-- Reads the part of a header that stands behind the bar or angle bracket: the sign and the digit,
which is not zero, in either order. -/
def ofLine? (folded : Bool) (line : List Char) : Option BlockHeader :=
  let (before, line) := takeChomping line
  let (increment, line) := takeIncrement line
  let (behind, line) := if before.isSome then (none, line) else takeChomping line
  if increment ≠ some 0 && endsLine line then
    some { folded, chomping := (before.or behind).getD .clip, increment }
  else none

end BlockHeader

/-- What was read of a scalar in block style. -/
structure BlockText where
  header : BlockHeader
  /-- The indentation of the text; 0 as long as it is not known. -/
  indent : Nat
  /-- The deepest indentation of the empty lines before the text. -/
  widest : Nat := 0
  /-- The text, the last character first. -/
  chars : List Char := []
  /-- The end of the last line of the text. -/
  lineEnd : List Char := []
  /-- The ends of the empty lines below it, the last one first. -/
  emptyLines : List Char := []
  /-- Whether the last line of the text begins with white space. -/
  spaced : Bool := false
  /-- Whether the last line of the text still goes on. -/
  inLine : Bool := false

namespace BlockText

/-- The scalar below a header, given the indentation of what surrounds it, which is -1 if there is
nothing. -/
def start (header : BlockHeader) (outer : Int) : BlockText where
  header
  indent := (header.increment.map fun increment => (max outer 0).toNat + increment).getD 0

/-- Whether a character at a column belongs to the indentation if it is white space. -/
def indents (text : BlockText) (column : Nat) : Bool := text.indent = 0 || column < text.indent

/-- Takes a space of the indentation. -/
def addIndent (text : BlockText) (column : Nat) : BlockText :=
  { text with widest := max text.widest (column + 1) }

/-- Takes the end of an empty line. -/
def addEmptyLine (text : BlockText) (c : Char) : BlockText :=
  { text with emptyLines := c :: text.emptyLines }

/-- Settles the indentation, if it is not known, where the first line begins that is not empty. -/
def settle (text : BlockText) (outer : Int) : BlockText :=
  if text.indent = 0 then { text with indent := max text.widest (max (outer + 1).toNat 1) }
  else text

/-- Begins a line with its first character. -/
def beginLine (text : BlockText) (c : Char) : BlockText :=
  let lineEnd :=
    if text.header.folded && text.lineEnd = ['\n'] && !text.spaced && !isBlank c then
      if text.emptyLines.isEmpty then [' '] else []
    else text.lineEnd
  { text with
    chars := c :: (text.emptyLines ++ lineEnd ++ text.chars)
    lineEnd := []
    emptyLines := []
    spaced := isBlank c
    inLine := true }

/-- Takes a further character of a line. -/
def addChar (text : BlockText) (c : Char) : BlockText := { text with chars := c :: text.chars }

/-- Ends a line. -/
def endLine (text : BlockText) (c : Char) : BlockText :=
  { text with lineEnd := [c], inLine := false }

/-- The text of the scalar. -/
def toText (text : BlockText) : String :=
  let ending :=
    match text.header.chomping with
    | .strip => []
    | .clip => text.lineEnd
    | .keep => text.emptyLines ++ text.lineEnd
  String.ofList (ending ++ text.chars).reverse

end BlockText

end Yaml

end QueryTyping
