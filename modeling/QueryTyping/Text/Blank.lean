import QueryTyping.Text.Ranges

/-!
# White space and words

The characters of the Unicode property White_Space, and the words that they divide a text into.
A word is a longest run of other characters, so there is no empty word, and white space at the
ends of a text or repeated inside it makes no difference.
-/

namespace QueryTyping.Text

/-- The code points of the property White_Space, as ranges with both ends included. -/
def blankRanges : List (Nat × Nat) :=
  [(0x09, 0x0D), (0x20, 0x20), (0x85, 0x85), (0xA0, 0xA0), (0x1680, 0x1680), (0x2000, 0x200A),
   (0x2028, 0x2029), (0x202F, 0x202F), (0x205F, 0x205F), (0x3000, 0x3000)]

/-- Whether a character is white space. -/
def isBlank (c : Char) : Bool := inRanges blankRanges c

/-- Whether a text begins with a character of a word. -/
def beginsWord : List Char → Bool
  | [] => false
  | c :: _ => !isBlank c

/-- The words of a text, in order. -/
def words : List Char → List (List Char)
  | [] => []
  | c :: cs =>
    if isBlank c then words cs
    else if beginsWord cs then (words cs).modifyHead (c :: ·)
    else [c] :: words cs

theorem words_blank {c : Char} (h : isBlank c = true) (cs : List Char) :
    words (c :: cs) = words cs := by
  simp [words, h]

/-- Between two words stands one space. -/
def unwords (ws : List (List Char)) : List Char := [' '].intercalate ws

end QueryTyping.Text
