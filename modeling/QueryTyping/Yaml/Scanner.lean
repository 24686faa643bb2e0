import QueryTyping.Yaml.BlockText
import QueryTyping.Yaml.Tag

/-!
# Tokens of YAML

The text of a document is divided into tokens, character by character. Indentation is made
explicit on the way: a collection in block style begins with a token of its own where its first
item or key is indented more deeply than what surrounds it, and ends with another where the
indentation goes back.

A key is only known as such when the colon behind it is met. A scalar or collection that might be
a key is therefore noted with the number of tokens before it, and the token that announces a key
is put there when the colon comes. A possible key must be followed by its colon on the same line
and within `keyReach` bytes. In block style, what stands at the indentation of the current
collection must be a key.

What depends on earlier parts of the text is settled on the way: a tag is written in full, and
anchors are numbered, an anchor by how many names other anchors had before. The second anchor with
a name therefore gets a number of its own, which the next new name gets as well.
-/

namespace QueryTyping

namespace Yaml

/-- The smallest parts of a document. -/
inductive Token where
  | directive
  | documentStart
  | documentEnd
  | blockSequenceStart
  | blockMappingStart
  | blockEnd
  | flowSequenceStart
  | flowSequenceEnd
  | flowMappingStart
  | flowMappingEnd
  | blockEntry
  | flowEntry
  | key
  | value
  | anchor (number : Nat)
  | aliasOf (number : Nat)
  | tag (tag : Tag)
  | scalar (text : String) (style : ScalarStyle)
  deriving DecidableEq

/-- How many bytes of text a key may take up to its colon. -/
def keyReach : Nat := 1024

/-- Something that may turn out to be a key. -/
structure PossibleKey where
  /-- Whether it must be one. -/
  required : Bool
  /-- The number of tokens before it. -/
  place : Nat
  line : Nat
  column : Nat
  /-- The number of bytes before it. -/
  offset : Nat

/-- What the next character belongs to. Characters are kept with the last one first. -/
inductive Mode where
  /-- A new token. -/
  | between
  | comment
  /-- A token that is complete except for some characters. -/
  | rest (count : Nat)
  /-- A plain scalar, and the white space after what was read of it. -/
  | plain (chars : List Char) (gap : Gap)
  | singleQuoted (chars : List Char)
  /-- The second of two single quotation marks, which stand for one. -/
  | singleQuote (chars : List Char)
  | doubleQuoted (chars : List Char)
  /-- The character behind a backslash in double quotation marks. -/
  | doubleEscape (chars : List Char)
  /-- The header of a scalar in block style, behind its first character. -/
  | blockHeader (folded : Bool) (chars : List Char)
  | block (text : BlockText)

/-- Where scanning stands. -/
structure Scanner where
  line : Nat := 0
  column : Nat := 0
  offset : Nat := 0
  /-- The indentation of the current block collection; -1 outside of all. -/
  indent : Int := -1
  /-- The indentations of the collections around it, innermost first. -/
  outerIndents : List Int := []
  /-- The possible key at the level of the current flow collection and at the levels around it, of
  which the last is that of block style. -/
  keys : List (Option PossibleKey) := [none]
  /-- Whether a key may begin here. -/
  keyAllowed : Bool := true
  /-- Whether a directive named the version. -/
  hasVersion : Bool := false
  /-- The handles that directives gave a meaning. -/
  handles : Handles := []
  /-- The names of anchors and the numbers that they stand for. -/
  anchors : List (String × Nat) := []
  /-- The tokens so far, the last one first. -/
  tokens : List Token := []
  mode : Mode := .between

namespace Scanner

/-! ## Keys and indentation -/

/-- Whether the current place is inside a flow collection. -/
def inFlow (s : Scanner) : Bool := 1 < s.keys.length

/-- Adds a token. -/
def push (s : Scanner) (token : Token) : Scanner := { s with tokens := token :: s.tokens }

/-- Puts tokens after the first `place` ones. -/
def insertTokens (s : Scanner) (place : Nat) (tokens : List Token) : Scanner :=
  let behind := s.tokens.take (s.tokens.length - place)
  let before := s.tokens.drop (s.tokens.length - place)
  { s with tokens := behind ++ tokens.reverse ++ before }

/-- Gives up the possible key of the current level, which must not be a required one. -/
def dropKey? (s : Scanner) : Option Scanner :=
  match s.keys with
  | some key :: rest => if key.required then none else some { s with keys := none :: rest }
  | _ => some s

/-- Gives up the possible keys whose colon can no longer come. -/
def dropStaleKeys? (s : Scanner) : Option Scanner := do
  let keys ← s.keys.mapM fun entry =>
    match entry with
    | some key =>
      if key.line < s.line || key.offset + keyReach < s.offset then
        if key.required then none else some none
      else some entry
    | none => some none
  return { s with keys }

/-- Notes that a key may begin here. -/
def noteKey? (s : Scanner) : Option Scanner := do
  if !s.keyAllowed then return s
  let s ← s.dropKey?
  let key : PossibleKey := {
    required := !s.inFlow && s.indent == s.column
    place := s.tokens.length
    line := s.line
    column := s.column
    offset := s.offset }
  return { s with keys := some key :: s.keys.tail }

/-- Begins a block collection at a column, if that is deeper than the current indentation. The
token of its beginning goes behind the first `place` tokens. -/
def indentTo (s : Scanner) (column place : Nat) (token : Token) : Scanner :=
  if !s.inFlow && s.indent < column then
    { s with indent := column, outerIndents := s.indent :: s.outerIndents }.insertTokens
      place [token]
  else s

/-- Ends the block collections that are indented more deeply than a column. -/
def dedentTo (s : Scanner) (column : Int) : Scanner :=
  if s.inFlow then s else go s s.outerIndents
where
  /-- Goes through the surrounding indentations. -/
  go (s : Scanner) : List Int → Scanner
    | [] => s
    | outer :: rest =>
      if column < s.indent then
        go { s with indent := outer, outerIndents := rest, tokens := .blockEnd :: s.tokens } rest
      else s

/-! ## Tokens -/

/-- Adds a token that begins with the current character and goes on for `count` more. -/
def pushLong (s : Scanner) (token : Token) (count : Nat) : Scanner :=
  { s.push token with keyAllowed := false, mode := if count = 0 then .between else .rest count }

/-- Ends all collections and adds the mark of a document. -/
def documentMark? (s : Scanner) (token : Token) : Option Scanner := do
  return (← (s.dedentTo (-1)).dropKey?).pushLong token 2

/-- Follows a directive. The version may be named once, and a handle gets one meaning. -/
def follow? (s : Scanner) : Directive → Option Scanner
  | .version => if s.hasVersion then none else some { s with hasVersion := true }
  | .handle name start =>
    if (s.handles.lookup name).isSome then none
    else some { s with handles := (name, start) :: s.handles }

/-- The directive behind a percent sign. -/
def directive? (s : Scanner) (rest : List Char) : Option Scanner := do
  let line := rest.takeWhile (!isBreak ·)
  let s ← (s.dedentTo (-1)).dropKey?
  return (← s.follow? (← Directive.ofLine? line)).pushLong .directive line.length

/-- The punctuation that the name of an anchor may stand before. -/
def anchorStops : List Char := "?:,]\x7d%@\x60".toList

/-- The name of an anchor, which must end at white space or punctuation. -/
def anchorName? (rest : List Char) : Option (List Char) :=
  let name := rest.takeWhile isNameChar
  let behind := rest.drop name.length
  if !name.isEmpty && (atGap behind || behind.head?.any (· ∈ anchorStops)) then some name else none

/-- The anchor behind an ampersand. -/
def anchor? (s : Scanner) (rest : List Char) : Option Scanner := do
  let name ← anchorName? rest
  let s ← s.noteKey?
  let number := s.anchors.length
  let others := s.anchors.filter fun entry => entry.1 ≠ String.ofList name
  let s := { s with anchors := (String.ofList name, number) :: others }
  return s.pushLong (.anchor number) name.length

/-- The alias behind an asterisk, which needs an anchor before it. -/
def aliasOf? (s : Scanner) (rest : List Char) : Option Scanner := do
  let name ← anchorName? rest
  let number ← s.anchors.lookup (String.ofList name)
  return (← s.noteKey?).pushLong (.aliasOf number) name.length

/-- The tag behind an exclamation mark, which must end at white space or, in a flow collection, at
a comma. -/
def tag? (s : Scanner) (rest : List Char) : Option Scanner := do
  let (tag, count) ← readTag? (s.handles ++ standardHandles) rest
  let behind := rest.drop count
  if atGap behind || (s.inFlow && behind.head? = some ',') then
    return (← s.noteKey?).pushLong (.tag tag) count
  else none

/-- Begins a scalar in block style. -/
def beginBlock? (s : Scanner) (folded : Bool) : Option Scanner := do
  let s ← s.dropKey?
  return { s with keyAllowed := true, mode := .blockHeader folded [] }

/-- Opens a flow collection. -/
def openFlow? (s : Scanner) (token : Token) : Option Scanner := do
  let s ← s.noteKey?
  return { s.push token with keys := none :: s.keys, keyAllowed := true }

/-- Closes a flow collection. -/
def closeFlow? (s : Scanner) (token : Token) : Option Scanner := do
  let s ← s.dropKey?
  let keys := if s.inFlow then s.keys.tail else s.keys
  return { s.push token with keys, keyAllowed := false }

/-- The comma between the items of a flow collection. -/
def flowEntry? (s : Scanner) : Option Scanner := do
  let s ← s.dropKey?
  return { s.push .flowEntry with keyAllowed := true }

/-- The dash before an item of a block sequence. -/
def blockEntry? (s : Scanner) : Option Scanner := do
  if !s.inFlow && !s.keyAllowed then none
  let s ← (s.indentTo s.column s.tokens.length .blockSequenceStart).dropKey?
  return { s.push .blockEntry with keyAllowed := true }

/-- The question mark before a key. -/
def explicitKey? (s : Scanner) : Option Scanner := do
  if !s.inFlow && !s.keyAllowed then none
  let s ← (s.indentTo s.column s.tokens.length .blockMappingStart).dropKey?
  return { s.push .key with keyAllowed := !s.inFlow }

/-- The colon before a value. What was noted as a possible key now is one. -/
def value? (s : Scanner) : Option Scanner :=
  match s.keys with
  | some key :: rest =>
    let s := ({ s with keys := none :: rest }.insertTokens key.place [.key]).indentTo
      key.column key.place .blockMappingStart
    some { s.push .value with keyAllowed := false }
  | _ =>
    if !s.inFlow && !s.keyAllowed then none
    else
      let s := s.indentTo s.column s.tokens.length .blockMappingStart
      some { s.push .value with keyAllowed := !s.inFlow }

/-- Begins a scalar. -/
def beginScalar? (s : Scanner) (mode : Mode) : Option Scanner := do
  let s ← s.noteKey?
  return { s with keyAllowed := false, mode }

/-- Ends a scalar. -/
def endScalar (s : Scanner) (text : String) (style : ScalarStyle) : Scanner :=
  { s.push (.scalar text style) with mode := .between }

/-- Ends a plain scalar; a key may begin behind it if it was the last of its line. -/
def endPlain (s : Scanner) (chars : List Char) (gap : Gap) : Scanner :=
  let s := s.endScalar (String.ofList chars.reverse) .plain
  if gap.crossesLine then { s with keyAllowed := true } else s

/-- Ends a scalar in block style. -/
def endBlock (s : Scanner) (text : BlockText) : Scanner :=
  s.endScalar text.toText (if text.header.folded then .folded else .literal)

/-- Begins the text of a scalar in block style below its header, which is given with the last
character first. -/
def blockText? (s : Scanner) (folded : Bool) (header : List Char) : Option BlockText :=
  (BlockHeader.ofLine? folded header.reverse).map (BlockText.start · s.indent)

/-- Whether a text begins with the mark of a document. -/
def isDocumentMark : List Char → Bool
  | a :: b :: c :: rest => a = b && b = c && (a = '-' || a = '.') && atGap rest
  | _ => false

/-- The characters that cannot begin a plain scalar. -/
def indicators : List Char := "-?:,[]\x7b\x7d#&*!|>'\"%@\x60".toList

/-- Characters that end a plain scalar in a flow collection. -/
def flowIndicators : List Char := ",[]\x7b\x7d".toList

/-- Takes a character of a plain scalar. A colon directly before the punctuation of a flow
collection is refused. -/
def plainChar? (s : Scanner) (chars : List Char) (gap : Gap) (c : Char) (rest : List Char) :
    Option Scanner :=
  if s.inFlow && c = ':' && rest.head?.any (· ∈ '?' :: flowIndicators) then none
  else some { s with mode := .plain (c :: (gap.fold ++ chars)) .none }

/-- Whether a plain scalar ends before a character. -/
def endsPlain (s : Scanner) (gap : Gap) (c : Char) (rest : List Char) : Bool :=
  (!gap.isNone && c = '#')
    || (gap.crossesLine && !s.inFlow && (s.column : Int) ≤ s.indent)
    || (s.column = 0 && isDocumentMark (c :: rest))
    || (c = ':' && atGap rest)
    || (s.inFlow && c ∈ flowIndicators)

/-- Begins the token of a character. -/
def beginToken? (s : Scanner) (c : Char) (rest : List Char) : Option Scanner := do
  let s ← s.dropStaleKeys?
  let s := s.dedentTo s.column
  if s.column = 0 && c = '%' then s.directive? rest
  else if s.column = 0 && isDocumentMark (c :: rest) then
    s.documentMark? (if c = '-' then .documentStart else .documentEnd)
  else if c = '[' then s.openFlow? .flowSequenceStart
  else if c = '\x7b' then s.openFlow? .flowMappingStart
  else if c = ']' then s.closeFlow? .flowSequenceEnd
  else if c = '\x7d' then s.closeFlow? .flowMappingEnd
  else if c = ',' then s.flowEntry?
  else if c = '-' && atGap rest then s.blockEntry?
  else if c = '?' && (s.inFlow || atGap rest) then s.explicitKey?
  else if c = ':' && (s.inFlow || atGap rest) then s.value?
  else if c = '*' then s.aliasOf? rest
  else if c = '&' then s.anchor? rest
  else if c = '!' then s.tag? rest
  else if c = '|' && !s.inFlow then s.beginBlock? false
  else if c = '>' && !s.inFlow then s.beginBlock? true
  else if c = '\'' then s.beginScalar? (.singleQuoted [])
  else if c = '"' then s.beginScalar? (.doubleQuoted [])
  else if c ∉ '\t' :: indicators || c = '-' || (!s.inFlow && (c = '?' || c = ':')) then do
    let s ← s.beginScalar? .between
    s.plainChar? [] .none c rest
  else none

/-! ## Characters -/

/-- Takes a character where a token may begin. White space between tokens does not count, but a tab
must not stand where a key may begin. Nor does a byte order mark at the start of a line, which
takes up a column all the same. -/
def between? (s : Scanner) (c : Char) (rest : List Char) : Option Scanner :=
  if c = ' ' || (c = '\ufeff' && s.column = 0) then some { s with mode := .between }
  else if c = '\t' && (s.inFlow || !s.keyAllowed) then some { s with mode := .between }
  else if c = '#' then some { s with mode := .comment }
  else if isBreak c then some { s with keyAllowed := s.keyAllowed || !s.inFlow, mode := .between }
  else { s with mode := .between }.beginToken? c rest

/-- Takes a character below the header of a scalar in block style. A tab must not stand in the
indentation. The scalar ends before the first line that is indented less. -/
def blockChar? (s : Scanner) (text : BlockText) (c : Char) (rest : List Char) : Option Scanner :=
  if text.inLine then
    some { s with mode := .block (if isBreak c then text.endLine c else text.addChar c) }
  else if c = ' ' && text.indents s.column then
    some { s with mode := .block (text.addIndent s.column) }
  else if c = '\t' && text.indents s.column then none
  else if isBreak c then some { s with mode := .block (text.addEmptyLine c) }
  else
    let text := text.settle s.indent
    if s.column = text.indent then some { s with mode := .block (text.beginLine c) }
    else (s.endBlock text).between? c rest

/-- Takes a character, given the characters behind it. -/
def take? (s : Scanner) (c : Char) (rest : List Char) : Option Scanner :=
  match s.mode with
  | .between => s.between? c rest
  | .comment => if isBreak c then s.between? c rest else some s
  | .rest count => some { s with mode := if count ≤ 1 then .between else .rest (count - 1) }
  | .plain chars gap =>
    if isBlank c then
      if gap.crossesLine && (s.column : Int) ≤ s.indent && c = '\t' then none
      else some { s with mode := .plain chars (gap.addBlank c) }
    else if isBreak c then some { s with mode := .plain chars (gap.addBreak c) }
    else if s.endsPlain gap c rest then (s.endPlain chars gap).between? c rest
    else s.plainChar? chars gap c rest
  | .singleQuoted chars =>
    if s.column = 0 && isDocumentMark (c :: rest) then none
    else if c = '\'' then
      if rest.head? = some '\'' then some { s with mode := .singleQuote (c :: chars) }
      else some (s.endScalar (Yaml.singleQuoted chars.reverse) .quoted)
    else some { s with mode := .singleQuoted (c :: chars) }
  | .singleQuote chars => some { s with mode := .singleQuoted chars }
  | .doubleQuoted chars =>
    if s.column = 0 && isDocumentMark (c :: rest) then none
    else if c = '"' then (doubleQuoted? chars.reverse).map (s.endScalar · .quoted)
    else if c = '\\' then some { s with mode := .doubleEscape (c :: chars) }
    else some { s with mode := .doubleQuoted (c :: chars) }
  | .doubleEscape chars => some { s with mode := .doubleQuoted (c :: chars) }
  | .blockHeader folded chars =>
    if isBreak c then (s.blockText? folded chars).map ({ s with mode := .block · })
    else some { s with mode := .blockHeader folded (c :: chars) }
  | .block text => s.blockChar? text c rest

/-- Moves past a character. -/
def advance (s : Scanner) (c : Char) : Scanner :=
  let offset := s.offset + c.utf8Size
  if isBreak c then { s with line := s.line + 1, column := 0, offset }
  else { s with column := s.column + 1, offset }

/-- Takes all characters of a text. -/
def takeAll? (s : Scanner) : List Char → Option Scanner
  | [] => some s
  | c :: rest => do ((← s.take? c rest).advance c).takeAll? rest

/-- Ends the text. -/
def finish? (s : Scanner) : Option (List Token) := do
  let s ←
    match s.mode with
    | .between | .comment | .rest _ => some s
    | .plain chars gap => some (s.endPlain chars gap)
    | .blockHeader folded chars => (s.blockText? folded chars).map s.endBlock
    | .block text => some (s.endBlock text)
    | _ => none
  let s ← s.dropStaleKeys?
  let s ← (s.dedentTo (-1)).dropKey?
  return s.tokens.reverse

end Scanner

/-- Whether a character may stand in a document. -/
def isAllowed (c : Char) : Bool :=
  c = '\t' || c = '\n' || c = '\r' || (' ' ≤ c && c ≤ '~') || c = '\u0085'
    || ('\u00a0' ≤ c && c ∉ ['\ufffe', '\uffff'])

/-- Writes every end of a line as one character. -/
def unifyBreaks : List Char → List Char
  | [] => []
  | '\r' :: '\n' :: rest => '\n' :: unifyBreaks rest
  | c :: rest => (if c = '\r' || c = '\u0085' then '\n' else c) :: unifyBreaks rest

/-- The tokens of a text. -/
def tokens? (cs : List Char) : Option (List Token) :=
  if cs.all isAllowed then do (← ({} : Scanner).takeAll? (unifyBreaks cs)).finish? else none

end Yaml

end QueryTyping
