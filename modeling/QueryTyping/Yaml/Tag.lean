import QueryTyping.Yaml.BlockText

/-!
# Tags and directives

A tag says what a node is meant to be. It is written in full between angle brackets, or short: a
handle and what is put behind the bytes that the handle stands for. The handle `!` stands for itself
and `!!` for the beginning of the tags of the YAML standard, unless a directive says otherwise.

A percent sign and two hexadecimal digits stand for a byte. The bytes must be grouped as in UTF-8,
but need not be the bytes of a character, and a zero byte ends the tag.

A directive is a line before the document that names the version of YAML or gives a handle a
meaning.
-/

namespace QueryTyping

namespace Yaml

/-- The bytes of a tag. -/
abbrev Tag := List UInt8

namespace Tag

/-- The tag with the bytes of a text. -/
def ofText (text : String) : Tag := text.toUTF8.toList

/-- The tag of truth values. -/
def bool : Tag := ofText "tag:yaml.org,2002:bool"

/-- The tag of what stands for nothing. -/
def null : Tag := ofText "tag:yaml.org,2002:null"

/-- The name behind the exclamation mark that a tag begins with. -/
def name? : Tag → Option String
  | [] => none
  | mark :: name => if mark = '!'.toUInt8 then String.fromUTF8? ⟨name.toArray⟩ else none

end Tag

/-- The handles of tags and what they stand for. -/
abbrev Handles := List (String × Tag)

/-- The handles that need no directive. -/
def standardHandles : Handles := [("!", .ofText "!"), ("!!", .ofText "tag:yaml.org,2002:")]

/-- The characters of names. -/
def isNameChar (c : Char) : Bool := c.isAlphanum || c = '_' || c = '-'

/-- The characters of a tag. -/
def isTagChar (c : Char) : Bool := isNameChar c || c ∈ ";/?:@&=+$.%!~*'()".toList

/-- The characters of a tag that is written in full and of what a handle stands for. -/
def isFullTagChar (c : Char) : Bool := isTagChar c || c ∈ [',', '[', ']']

/-- How many bytes must follow the first byte of a group. -/
def followers? (byte : UInt8) : Option Nat :=
  if byte < 0x80 then some 0
  else if byte < 0xC0 then none
  else if byte < 0xE0 then some 1
  else if byte < 0xF0 then some 2
  else if byte < 0xF8 then some 3
  else none

/-- The bytes that are written in a part of a tag, of which the first `pending` ones complete a
group. -/
def writtenBytes? (pending : Nat) : List Char → Option (List UInt8)
  | [] => if pending = 0 then some [] else none
  | '%' :: a :: b :: rest => do
    let byte := UInt8.ofNat ((← hexValue? a) * 16 + (← hexValue? b))
    if pending = 0 then return byte :: (← writtenBytes? (← followers? byte) rest)
    else if 0x80 ≤ byte && byte < 0xC0 then return byte :: (← writtenBytes? (pending - 1) rest)
    else none
  | c :: rest => do
    if c = '%' || pending ≠ 0 then none
    return c.toUInt8 :: (← writtenBytes? 0 rest)

/-- The part of a tag that is written in some characters, of which there must be one. -/
def tagPart? (cs : List Char) : Option Tag :=
  if cs.isEmpty then none else (writtenBytes? 0 cs).map (·.takeWhile (· ≠ 0))

/-- Reads the tag behind an exclamation mark. The result is the whole tag and the number of
characters that were read. An exclamation mark with nothing behind it is a tag too. -/
def readTag? (handles : Handles) (cs : List Char) : Option (Tag × Nat) :=
  match cs with
  | '<' :: rest => do
    let text := rest.takeWhile isFullTagChar
    if (rest.drop text.length).head? ≠ some '>' then none
    return (← tagPart? text, text.length + 2)
  | cs =>
    let name := cs.takeWhile isNameChar
    match cs.drop name.length with
    | '!' :: rest => do
      let text := rest.takeWhile isTagChar
      let start ← handles.lookup (String.ofList ('!' :: name ++ ['!']))
      return (start ++ (← tagPart? text), name.length + 1 + text.length)
    | rest => do
      let text := name ++ rest.takeWhile isTagChar
      let part ← if text.isEmpty then some [] else tagPart? text
      let start ← if part.isEmpty then some (.ofText "!") else handles.lookup "!"
      return (start ++ part, text.length)

/-! ## Directives -/

/-- A line that tells how to read the document below. -/
inductive Directive where
  /-- The version of YAML. -/
  | version
  /-- What a handle stands for. -/
  | handle (name : String) (start : Tag)

namespace Directive

/-- Takes a number of at most nine digits. -/
def takeNumber? (cs : List Char) : Option (Nat × List Char) :=
  let digits := cs.takeWhile Char.isDigit
  if digits.isEmpty || 9 < digits.length then none
  else
    some (digits.foldl (fun n c => n * 10 + (c.toNat - '0'.toNat)) 0, cs.drop digits.length)

/-- Reads what stands behind the name of a directive for the version, which must be 1.1 or 1.2. -/
def version? (cs : List Char) : Option Directive := do
  match ← takeNumber? (cs.dropWhile isBlank) with
  | (1, '.' :: rest) =>
    let (minor, rest) ← takeNumber? rest
    if (minor = 1 || minor = 2) && endsLine rest then return version else none
  | _ => none

/-- Takes the handle of a tag behind its first exclamation mark. -/
def takeHandle? (cs : List Char) : Option (String × List Char) :=
  let name := cs.takeWhile isNameChar
  match cs.drop name.length with
  | '!' :: rest => some (String.ofList ('!' :: name ++ ['!']), rest)
  | rest => if name.isEmpty then some ("!", rest) else none

/-- Reads what stands behind the name of a directive for a handle. -/
def handle? (cs : List Char) : Option Directive :=
  match cs.dropWhile isBlank with
  | '!' :: rest => do
    let (name, rest) ← takeHandle? rest
    if !rest.head?.any isBlank then none
    let rest := rest.dropWhile isBlank
    let text := rest.takeWhile isFullTagChar
    let rest := rest.drop text.length
    if atGap rest && endsLine rest then return handle name (← tagPart? text) else none
  | _ => none

/-- Reads a directive from what stands behind the percent sign on its line. -/
def ofLine? (line : List Char) : Option Directive :=
  let name := line.takeWhile isNameChar
  let rest := line.drop name.length
  if !atGap rest then none
  else if name = "YAML".toList then version? rest
  else if name = "TAG".toList then handle? rest
  else none

end Directive

end Yaml

end QueryTyping
