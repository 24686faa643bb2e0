import QueryTyping.Json.Basic

/-!
# Printing JSON

A value as a text without white space. Texts are written as they are but for quotation marks,
backslashes and control characters.
-/

namespace QueryTyping

namespace Json

/-- A hexadecimal digit. -/
def hexDigit (n : Nat) : Char := Nat.digitChar (n % 16)

/-- The last `count` hexadecimal digits of a number. -/
def hexDigits (count n : Nat) : List Char :=
  (List.range count).reverse.map fun place => hexDigit (n / Nat.pow 16 place)

/-- A character as it is written inside quotation marks. -/
def escapeChar (c : Char) : List Char :=
  if c = '"' then ['\\', '"']
  else if c = '\\' then ['\\', '\\']
  else if c = '\x08' then ['\\', 'b']
  else if c = '\x0c' then ['\\', 'f']
  else if c = '\n' then ['\\', 'n']
  else if c = '\r' then ['\\', 'r']
  else if c = '\t' then ['\\', 't']
  else if c.toNat < 0x20 then ['\\', 'u'] ++ hexDigits 4 c.toNat
  else [c]

/-- A text between quotation marks. -/
def quote (text : String) : String :=
  "\"" ++ String.ofList (text.toList.flatMap escapeChar) ++ "\""

/-- A number as a numeral. -/
def renderNumber : JsonNumber → String
  | .integer value => toString value
  | .decimal negative significand exponent =>
    (if negative then "-" else "") ++ toString significand ++ "e" ++ toString exponent

mutual

/-- A value as a text. -/
def render : Json → String
  | null => "null"
  | bool true => "true"
  | bool false => "false"
  | number value => renderNumber value
  | string value => quote value
  | array items => "[" ++ ",".intercalate (renderItems items) ++ "]"
  | object members => "\x7b" ++ ",".intercalate (renderMembers members) ++ "\x7d"
  | unreadable => "null"

/-- The items of an array as texts. -/
def renderItems : List Json → List String
  | [] => []
  | item :: rest => item.render :: renderItems rest

/-- The members of an object as texts. -/
def renderMembers : List (String × Json) → List String
  | [] => []
  | (name, value) :: rest => (quote name ++ ":" ++ value.render) :: renderMembers rest

end

end Json

end QueryTyping
