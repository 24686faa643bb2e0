import QueryTyping.Json.Number

/-!
# Reading JSON

Reading goes in two passes, both of which take their input item by item. The first divides the
text into tokens: structural characters, texts between quotation marks, and words, which are
numerals and the three constants. The second keeps the containers that are still open and puts
each finished value into the innermost one.

A text is accepted if it is one value with white space around it. Texts hold no raw control
characters; an escape names one of the known characters or a code unit in four hexadecimal digits.
A value inside more than `maxDepth` containers cannot be read.
-/

namespace QueryTyping

namespace Json

/-! ## Texts -/

/-- What an escaped text is made of: characters, and the halves of surrogate pairs. -/
inductive TextPiece where
  | char (c : Char)
  | high (unit : Nat)
  | low (unit : Nat)

/-- The value of a hexadecimal digit. -/
def hexValue? (c : Char) : Option Nat :=
  if c.isDigit then some (c.toNat - '0'.toNat)
  else if 'a' ≤ c ∧ c ≤ 'f' then some (c.toNat - 'a'.toNat + 10)
  else if 'A' ≤ c ∧ c ≤ 'F' then some (c.toNat - 'A'.toNat + 10)
  else none

/-- What a code unit stands for on its own. -/
def TextPiece.ofUnit (unit : Nat) : TextPiece :=
  if 0xD800 ≤ unit ∧ unit < 0xDC00 then .high unit
  else if 0xDC00 ≤ unit ∧ unit < 0xE000 then .low unit
  else .char (Char.ofNat unit)

/-- The character that an escape of one letter names. -/
def escapedChar? : Char → Option Char
  | '"' => some '"'
  | '\\' => some '\\'
  | '/' => some '/'
  | 'b' => some '\x08'
  | 'f' => some '\x0c'
  | 'n' => some '\n'
  | 'r' => some '\r'
  | 't' => some '\t'
  | _ => none

/-- The pieces of a text as it stands between its quotation marks. -/
def textPieces? : List Char → Option (List TextPiece)
  | [] => some []
  | '\\' :: 'u' :: a :: b :: c :: d :: rest => do
    let unit := (((← hexValue? a) * 16 + (← hexValue? b)) * 16 + (← hexValue? c)) * 16
      + (← hexValue? d)
    return .ofUnit unit :: (← textPieces? rest)
  | '\\' :: c :: rest => do return .char (← escapedChar? c) :: (← textPieces? rest)
  | c :: rest => do
    if c.toNat < 0x20 ∨ c = '\\' then none
    return .char c :: (← textPieces? rest)

/-- Joins the halves of surrogate pairs, which must not stand alone. -/
def joinPieces? : List TextPiece → Option (List Char)
  | [] => some []
  | .char c :: rest => (joinPieces? rest).map (c :: ·)
  | .high unit :: .low unit' :: rest =>
    (joinPieces? rest).map
      (Char.ofNat (0x10000 + (unit - 0xD800) * 0x400 + (unit' - 0xDC00)) :: ·)
  | _ => none

/-! ## Tokens -/

/-- The smallest parts of a text. -/
inductive Token where
  | openArray
  | closeArray
  | openObject
  | closeObject
  | colon
  | comma
  /-- A text; none if half a surrogate pair stands alone in it. -/
  | text (value : Option String)
  /-- A constant or a number. -/
  | atom (value : Json)

/-- The token of a text as it stands between its quotation marks. -/
def Token.ofText? (cs : List Char) : Option Token :=
  (textPieces? cs).map fun pieces => .text ((joinPieces? pieces).map String.ofList)

/-- The value of a number; one whose floating-point value is not finite cannot be read. -/
def ofNumber (value : JsonNumber) : Json :=
  if value.toFloat?.isSome then .number value else .unreadable

/-- The token of a word. -/
def Token.ofWord? (cs : List Char) : Option Token :=
  match String.ofList cs with
  | "null" => some (.atom .null)
  | "true" => some (.atom (.bool true))
  | "false" => some (.atom (.bool false))
  | _ => (Numeral.read? cs).map fun numeral => .atom (ofNumber numeral.toNumber)

/-- The token of a structural character. -/
def Token.ofChar? : Char → Option Token
  | '[' => some .openArray
  | ']' => some .closeArray
  | '\x7b' => some .openObject
  | '\x7d' => some .closeObject
  | ':' => some .colon
  | ',' => some .comma
  | _ => none

/-- The white space that may stand between tokens. -/
def isSpace (c : Char) : Bool := c = ' ' || c = '\t' || c = '\n' || c = '\r'

/-- Where the division into tokens stands. The characters of an unfinished token are kept with the
last one first. -/
inductive Lexing where
  | between
  | word (chars : List Char)
  | text (chars : List Char)
  | escape (chars : List Char)

/-- Divides a text into tokens, from a given place on. -/
def tokensFrom : Lexing → List Char → Option (List Token)
  | .between, [] => some []
  | .between, c :: cs =>
    if isSpace c then tokensFrom .between cs
    else if c = '"' then tokensFrom (.text []) cs
    else
      match Token.ofChar? c with
      | some token => (tokensFrom .between cs).map (token :: ·)
      | none => tokensFrom (.word [c]) cs
  | .word chars, [] => (Token.ofWord? chars.reverse).map ([·])
  | .word chars, c :: cs => do
    if isSpace c then return (← Token.ofWord? chars.reverse) :: (← tokensFrom .between cs)
    else if c = '"' then return (← Token.ofWord? chars.reverse) :: (← tokensFrom (.text []) cs)
    else
      match Token.ofChar? c with
      | some token =>
        return (← Token.ofWord? chars.reverse) :: token :: (← tokensFrom .between cs)
      | none => tokensFrom (.word (c :: chars)) cs
  | .text _, [] => none
  | .text chars, c :: cs =>
    if c = '"' then do
      return (← Token.ofText? chars.reverse) :: (← tokensFrom .between cs)
    else if c = '\\' then tokensFrom (.escape (c :: chars)) cs
    else tokensFrom (.text (c :: chars)) cs
  | .escape _, [] => none
  | .escape chars, c :: cs => tokensFrom (.text (c :: chars)) cs

/-- The tokens of a text. -/
def tokens? (cs : List Char) : Option (List Token) := tokensFrom .between cs

/-! ## Values -/

/-- How many containers may be open at a value that can be read. -/
def maxDepth : Nat := 127

/-- A container that is still open, with what it holds so far, the last item first. -/
inductive Container where
  | array (items : List Json)
  /-- An object; `name` is that of the member whose value comes next. -/
  | object (members : List (Option String × Json)) (name : Option String)

/-- What may come next. -/
inductive Awaited where
  /-- A value. -/
  | value
  /-- A value or the end of the array that was just opened. -/
  | firstItem
  /-- A name or the end of the object that was just opened. -/
  | firstName
  /-- A name. -/
  | name
  /-- The colon behind a name. -/
  | colon
  /-- A comma or the end of the container. -/
  | separator
  /-- Nothing: the value is complete. -/
  | nothing (value : Json)

/-- Where reading stands: the open containers, innermost first, and what comes next. -/
structure Progress where
  containers : List Container
  awaited : Awaited

namespace Progress

/-- Puts a finished value into the innermost container. -/
def deliver (containers : List Container) (value : Json) : Progress :=
  match containers with
  | [] => ⟨[], .nothing value⟩
  | .array items :: rest => ⟨.array (value :: items) :: rest, .separator⟩
  | .object members name :: rest => ⟨.object ((name, value) :: members) none :: rest, .separator⟩

/-- The value of a container that is closed. -/
def close : Container → Json
  | .array items => .array items.reverse
  | .object members _ =>
    match members.reverse.mapM (fun member => member.1.map (·, member.2)) with
    | some members => .object members
    | none => .unreadable

/-- Closes the innermost container. -/
def finish (container : Container) (rest : List Container) : Progress :=
  deliver rest (if rest.length < maxDepth then close container else .unreadable)

/-- Begins a value with its first token. -/
def begin? (containers : List Container) : Token → Option Progress
  | .openArray => some ⟨.array [] :: containers, .firstItem⟩
  | .openObject => some ⟨.object [] none :: containers, .firstName⟩
  | .text (some text) => some (deliver containers (.string text))
  | .text none => some (deliver containers .unreadable)
  | .atom value => some (deliver containers value)
  | _ => none

/-- Takes the next token. -/
def step? (progress : Progress) (token : Token) : Option Progress :=
  match progress.awaited, token, progress.containers with
  | .value, token, containers => begin? containers token
  | .firstItem, .closeArray, .array items :: rest => some (finish (.array items) rest)
  | .firstItem, token, containers => begin? containers token
  | .firstName, .closeObject, .object members name :: rest =>
    some (finish (.object members name) rest)
  | .firstName, .text text, .object members _ :: rest
  | .name, .text text, .object members _ :: rest => some ⟨.object members text :: rest, .colon⟩
  | .colon, .colon, containers => some ⟨containers, .value⟩
  | .separator, .comma, .array items :: rest => some ⟨.array items :: rest, .value⟩
  | .separator, .comma, .object members name :: rest =>
    some ⟨.object members name :: rest, .name⟩
  | .separator, .closeArray, .array items :: rest => some (finish (.array items) rest)
  | .separator, .closeObject, .object members name :: rest =>
    some (finish (.object members name) rest)
  | _, _, _ => none

end Progress

/-- Reads a value from its tokens. -/
def ofTokens? (tokens : List Token) : Option Json := do
  match (← tokens.foldlM Progress.step? ⟨[], .value⟩).awaited with
  | .nothing value => return value
  | _ => none

/-- Reads a text of JSON. -/
def parse? (text : String) : Option Json := (tokens? text.toList).bind ofTokens?

/-- Reads a text of JSON every part of which has a value. Of several members of one name the last
one counts. -/
def parseValue? (text : String) : Option Json :=
  (parse? text).bind fun json => if json.isReadable then some json.dedup else none

end Json

end QueryTyping
