import QueryTyping.ColumnType
import QueryTyping.Text.Blank

/-!
# Declared type names and their affinity

A declared type is a sequence of words, such as `VARCHAR(10)` or `DOUBLE PRECISION`. It decides a
core type by the parts of words that it contains: the first rule of `affinityRules` that applies
counts, and a name that no rule knows stores numbers.
-/

namespace QueryTyping

/-- A declared type, word by word. -/
structure TypeName where
  /-- The words, in order. -/
  tokens : List String
  deriving DecidableEq

namespace TypeName

/-- Reads a declared type: its words are divided by white space. -/
def parse (text : String) : TypeName :=
  ⟨(Text.words text.toList).map String.ofList⟩

/-- The words as one text, a space between each two. -/
def joined (name : TypeName) : String :=
  String.ofList (Text.unwords (name.tokens.map String.toList))

/-- The declared type as it is written. -/
def render (name : TypeName) : String := name.joined

end TypeName

namespace Text

/-- Whether a pattern stands somewhere in a text. -/
def contains (pattern : List Char) : List Char → Bool
  | [] => pattern.isEmpty
  | c :: cs => pattern.isPrefixOf (c :: cs) || contains pattern cs

/-- The pattern stands in the text: something is before it and something behind it. -/
theorem contains_iff (pattern text : List Char) :
    contains pattern text = true ↔ ∃ before behind, text = before ++ pattern ++ behind := by
  induction text with
  | nil =>
    simp only [contains, List.isEmpty_iff]
    constructor
    · rintro rfl
      exact ⟨[], [], rfl⟩
    · rintro ⟨before, behind, h⟩
      have h := h.symm
      simp only [List.append_eq_nil_iff] at h
      exact h.1.2
  | cons c cs ih =>
    simp only [contains, Bool.or_eq_true, ih, List.isPrefixOf_iff_prefix]
    constructor
    · rintro (⟨behind, h⟩ | ⟨before, behind, h⟩)
      · exact ⟨[], behind, by simpa using h.symm⟩
      · exact ⟨c :: before, behind, by simp [h]⟩
    · rintro ⟨before, behind, h⟩
      cases before with
      | nil => exact .inl ⟨behind, by simpa using h.symm⟩
      | cons b before =>
        simp only [List.cons_append, List.cons.injEq] at h
        exact .inr ⟨before, behind, h.2⟩

end Text

/-- Parts of declared types and the core types that they stand for. The first rule that applies
counts. -/
def affinityRules : List (String × CoreType) :=
  [("INT", .integer), ("CHAR", .string), ("CLOB", .string), ("TEXT", .string), ("BLOB", .blob),
   ("REAL", .float), ("FLOA", .float), ("DOUB", .float)]

/-- The core type that a declared type stores. The letters A to Z may be written small. -/
def TypeName.affinity (name : TypeName) : CoreType :=
  let text := name.joined.toList.map Char.toUpper
  match affinityRules.find? (fun rule => Text.contains rule.1.toList text) with
  | some rule => rule.2
  | none => .float

end QueryTyping
