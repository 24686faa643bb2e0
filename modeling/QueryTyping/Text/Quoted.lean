import QueryTyping.Text.HiddenTable
import QueryTyping.Text.Ranges

/-!
# Texts in reports

A text between quotation marks, in which quotation marks, backslashes and the characters that do
not show are written out, so that different texts look different.
-/

namespace QueryTyping.Text

/-- A code point in hexadecimal digits, as many as it needs. -/
def codePoint (c : Char) : List Char := Nat.toDigits 16 c.toNat

/-- Whether a character does not show where it stands. -/
def isHidden (c : Char) : Bool := inRanges blindRanges c || inRanges extendingRanges c

/-- A character as it is written in a report. -/
def reportChar (c : Char) : List Char :=
  if c = '"' then ['\\', '"']
  else if c = '\\' then ['\\', '\\']
  else if c = '\n' then ['\\', 'n']
  else if c = '\t' then ['\\', 't']
  else if c = '\r' then ['\\', 'r']
  else if c = '\x00' then ['\\', '0']
  else if isHidden c then ['\\', 'u', '\x7b'] ++ codePoint c ++ ['\x7d']
  else [c]

/-- A text as it is written in a report. -/
def quoted (text : String) : String :=
  "\"" ++ String.ofList (text.toList.flatMap reportChar) ++ "\""

end QueryTyping.Text
