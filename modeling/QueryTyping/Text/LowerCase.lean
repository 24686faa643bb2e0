import QueryTyping.Text.CaseTable
import QueryTyping.Text.LowerTable
import QueryTyping.Text.Ranges

/-!
# Lower case

The full Unicode lower case of a text. Every character is mapped on its own but one: a capital
sigma at the end of a word becomes the final form of the letter. A sigma ends a word if a cased
letter stands before it and none behind it, case-ignorable characters not counted.
-/

namespace QueryTyping.Text

/-- Whether a character has a case. -/
def isCased (c : Char) : Bool := inRanges casedRanges c

/-- Whether a character is passed over when one looks for a neighbouring letter. -/
def isCaseIgnorable (c : Char) : Bool := inRanges caseIgnorableRanges c

/-- Whether the first character that counts is a cased letter. -/
def meetsCased (cs : List Char) : Bool :=
  match cs.dropWhile isCaseIgnorable with
  | [] => false
  | c :: _ => isCased c

/-- The lower case of a character, wherever it stands. -/
def lowerChar (c : Char) : List Char :=
  if c.toNat < 0x80 then [c.toLower]
  else if c = 'İ' then ['i', '̇']
  else
    match lowerRuns.find? (·.covers c.toNat) with
    | some run => [Char.ofNat ((c.toNat : Int) + run.offset).toNat]
    | none => [c]

/-- The lower case of a text that follows the characters `before`, the nearest first. -/
def lowerAfter (before : List Char) : List Char → List Char
  | [] => []
  | c :: rest =>
    let lowered :=
      if c = 'Σ' then
        if meetsCased before && !meetsCased rest then ['ς'] else ['σ']
      else lowerChar c
    lowered ++ lowerAfter (c :: before) rest

/-- The lower case of a text. -/
def lowerCase (cs : List Char) : List Char := lowerAfter [] cs

end QueryTyping.Text
