/-!
# Scalars over several lines

A line break inside a scalar is folded: a single one counts as a space, and of several the first
does not count. White space around a line break does not count either. In double quotation marks a
backslash names a character that cannot be written otherwise, or takes a line break away.
-/

namespace QueryTyping

namespace Yaml

/-- How a scalar is written. -/
inductive ScalarStyle where
  /-- Without quotation marks. -/
  | plain
  /-- In single or double quotation marks. -/
  | quoted
  /-- In block style with the lines as they are. -/
  | literal
  /-- In block style with line breaks folded. -/
  | folded
  deriving DecidableEq

/-- White space inside a line. -/
def isBlank (c : Char) : Bool := c = ' ' || c = '\t'

/-- The characters that end a line. Other line ends are replaced before a text is read. -/
def isBreak (c : Char) : Bool := c = '\n' || c = '\u2028' || c = '\u2029'

/-- Whether white space, the end of a line or the end of the text comes next. -/
def atGap : List Char → Bool
  | [] => true
  | c :: _ => isBlank c || isBreak c

/-- White space that was met and whose meaning depends on what follows. -/
inductive Gap where
  /-- White space inside a line, the last character first. -/
  | spaces (chars : List Char)
  /-- The end of a line, which is none if it was taken away, and the ends of the empty lines after
  it, the last one first. -/
  | breaks (first : Option Char) (others : List Char)

namespace Gap

/-- No white space. -/
def none : Gap := spaces []

/-- Whether a line ended. -/
def crossesLine : Gap → Bool
  | spaces _ => false
  | breaks _ _ => true

/-- Whether there is no white space at all. -/
def isNone : Gap → Bool
  | spaces chars => chars.isEmpty
  | breaks _ _ => false

/-- Adds white space of a line, which does not count after a line break. -/
def addBlank (c : Char) : Gap → Gap
  | spaces chars => spaces (c :: chars)
  | breaks first others => breaks first others

/-- Adds a line break; white space before it does not count. -/
def addBreak (c : Char) : Gap → Gap
  | spaces _ => breaks (some c) []
  | breaks first others => breaks first (c :: others)

/-- What the white space stands for between two parts of a scalar, the last character first. -/
def fold : Gap → List Char
  | spaces chars => chars
  | breaks (some '\n') [] => [' ']
  | breaks (some '\n') others => others
  | breaks (some c) others => others ++ [c]
  | breaks Option.none others => others

end Gap

/-! ## Quoted scalars -/

/-- The parts of a quoted scalar. -/
inductive QuotedPiece where
  /-- A character as it stands in the text. -/
  | written (c : Char)
  /-- A character that an escape names; it never counts as white space. -/
  | named (c : Char)
  /-- A line break that was taken away. -/
  | joined

/-- The text of a quoted scalar. `done` is the text so far, the last character first. -/
def foldPieces (done : List Char) (gap : Gap) : List QuotedPiece → List Char
  | [] => (gap.fold ++ done).reverse
  | .written c :: rest =>
    if isBlank c then foldPieces done (gap.addBlank c) rest
    else if isBreak c then foldPieces done (gap.addBreak c) rest
    else foldPieces (c :: (gap.fold ++ done)) .none rest
  | .named c :: rest => foldPieces (c :: (gap.fold ++ done)) .none rest
  | .joined :: rest => foldPieces (gap.fold ++ done) (.breaks Option.none []) rest

/-- The text of a scalar in single quotation marks. -/
def singleQuoted (cs : List Char) : String :=
  String.ofList (foldPieces [] .none (cs.map .written))

/-- The character that an escape of one letter names. -/
def escapedChar? : Char → Option Char
  | '0' => some '\x00'
  | 'a' => some '\x07'
  | 'b' => some '\x08'
  | 't' => some '\t'
  | '\t' => some '\t'
  | 'n' => some '\n'
  | 'v' => some '\x0b'
  | 'f' => some '\x0c'
  | 'r' => some '\r'
  | 'e' => some '\x1b'
  | ' ' => some ' '
  | '"' => some '"'
  | '/' => some '/'
  | '\\' => some '\\'
  | 'N' => some '\u0085'
  | '_' => some '\u00a0'
  | 'L' => some '\u2028'
  | 'P' => some '\u2029'
  | _ => Option.none

/-- The value of a hexadecimal digit. -/
def hexValue? (c : Char) : Option Nat :=
  if c.isDigit then some (c.toNat - '0'.toNat)
  else if 'a' ≤ c ∧ c ≤ 'f' then some (c.toNat - 'a'.toNat + 10)
  else if 'A' ≤ c ∧ c ≤ 'F' then some (c.toNat - 'A'.toNat + 10)
  else Option.none

/-- The character whose code point the hexadecimal digits give. -/
def charOfDigits? (digits : List Char) : Option Char := do
  let code ← digits.foldlM (fun code c => (hexValue? c).map (code * 16 + ·)) 0
  if code.isValidChar then return Char.ofNat code else Option.none

/-- The parts of a scalar in double quotation marks. -/
def doubleQuotedPieces? : List Char → Option (List QuotedPiece)
  | [] => some []
  | '\\' :: 'x' :: a :: b :: rest => do
    return .named (← charOfDigits? [a, b]) :: (← doubleQuotedPieces? rest)
  | '\\' :: 'u' :: a :: b :: c :: d :: rest => do
    return .named (← charOfDigits? [a, b, c, d]) :: (← doubleQuotedPieces? rest)
  | '\\' :: 'U' :: a :: b :: c :: d :: e :: f :: g :: h :: rest => do
    return .named (← charOfDigits? [a, b, c, d, e, f, g, h]) :: (← doubleQuotedPieces? rest)
  | '\\' :: c :: rest => do
    if isBreak c then return .joined :: (← doubleQuotedPieces? rest)
    else return .named (← escapedChar? c) :: (← doubleQuotedPieces? rest)
  | c :: rest => do
    if c = '\\' then Option.none
    return .written c :: (← doubleQuotedPieces? rest)

/-- The text of a scalar in double quotation marks. -/
def doubleQuoted? (cs : List Char) : Option String :=
  (doubleQuotedPieces? cs).map fun pieces => String.ofList (foldPieces [] .none pieces)

end Yaml

end QueryTyping
