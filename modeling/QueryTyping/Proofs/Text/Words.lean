import QueryTyping.TypeName

/-!
# Words and the texts that they spell

Words spell a text if the text is made of them, in order, with white space between each two of them
and perhaps at the ends (`Spells`). Every text is spelled by one list of words only, and `words`
finds it (`words_eq_iff_spells`). What is known about the words of a text follows: they are words
indeed, and without the white space nothing of the text is lost.

Words that are joined by single spaces spell the joined text. So a declared type that is read,
joined and read again stays the same, and a list of tokens is read back from its joined form
exactly if all tokens are words (`TypeName.parse_normalizes_blanks`).
-/

namespace QueryTyping

namespace Text

variable {c : Char} {w cs : List Char} {ws : List (List Char)}

/-- A word has characters, and none of them is white space. -/
def IsWord (w : List Char) : Prop := w ≠ [] ∧ ∀ c ∈ w, isBlank c = false

/-- The words stand in the text in their order. There is white space between each two of them, and
there may be more of it anywhere around them. -/
inductive Spells : List (List Char) → List Char → Prop where
  | nil : Spells [] []
  | blank {c : Char} {cs : List Char} {ws : List (List Char)} (hc : isBlank c = true)
      (h : Spells ws cs) : Spells ws (c :: cs)
  | word {w cs : List Char} {ws : List (List Char)} (hw : IsWord w)
      (hbehind : beginsWord cs = false) (h : Spells ws cs) : Spells (w :: ws) (w ++ cs)

/-! ## What the words of a text are -/

theorem Spells.isWord (h : Spells ws cs) : ∀ w ∈ ws, IsWord w := by
  induction h with
  | nil => simp
  | blank _ _ ih => exact ih
  | word hw _ _ ih => exact List.forall_mem_cons.mpr ⟨hw, ih⟩

/-- Only white space is left out. -/
theorem Spells.flatten_eq (h : Spells ws cs) : ws.flatten = cs.filter (fun c => !isBlank c) := by
  induction h with
  | nil => rfl
  | blank hc _ ih => rw [ih, List.filter_cons_of_neg (by simp [hc])]
  | @word w cs ws hw _ _ ih =>
    have hkept : w.filter (fun c => !isBlank c) = w :=
      List.filter_eq_self.mpr fun c hc => by simp [hw.2 c hc]
    rw [List.flatten_cons, List.filter_append, hkept, ih]

/-! ## Every text has its words -/

theorem words_cons_of_beginsWord (hc : isBlank c = false) (hcs : beginsWord cs = true) :
    words (c :: cs) = (words cs).modifyHead (c :: ·) := by
  simp [words, hc, hcs]

theorem words_cons_of_not_beginsWord (hc : isBlank c = false) (hcs : beginsWord cs = false) :
    words (c :: cs) = [c] :: words cs := by
  simp [words, hc, hcs]

theorem spells_words (cs : List Char) : Spells (words cs) cs := by
  induction cs with
  | nil => exact .nil
  | cons c cs ih =>
    cases hc : isBlank c with
    | true =>
      rw [words_blank hc]
      exact .blank hc ih
    | false =>
      cases hcs : beginsWord cs with
      | true =>
        rw [words_cons_of_beginsWord hc hcs]
        -- the character goes before the first word of the rest
        generalize words cs = ws at ih
        cases ih with
        | nil => simp [beginsWord] at hcs
        | blank hblank _ => simp [beginsWord, hblank] at hcs
        | word hw hbehind h =>
          exact .word ⟨List.cons_ne_nil _ _, List.forall_mem_cons.mpr ⟨hc, hw.2⟩⟩ hbehind h
      | false =>
        rw [words_cons_of_not_beginsWord hc hcs]
        have hw : IsWord [c] := ⟨List.cons_ne_nil _ _, by simpa using hc⟩
        exact .word hw hcs ih

/-- A word ends where no other character of a word follows. -/
theorem words_append (hw : IsWord w) (hbehind : beginsWord cs = false) :
    words (w ++ cs) = w :: words cs := by
  obtain ⟨hne, hblank⟩ := hw
  induction w with
  | nil => exact absurd rfl hne
  | cons c w ih =>
    obtain ⟨hc, hw⟩ := List.forall_mem_cons.mp hblank
    cases w with
    | nil => exact words_cons_of_not_beginsWord hc hbehind
    | cons d w =>
      have hd : beginsWord (d :: w ++ cs) = true := by
        simp [beginsWord, (List.forall_mem_cons.mp hw).1]
      rw [List.cons_append, words_cons_of_beginsWord hc hd, ih (List.cons_ne_nil _ _) hw]
      rfl

theorem Spells.words_eq (h : Spells ws cs) : words cs = ws := by
  induction h with
  | nil => rfl
  | blank hc _ ih => rw [words_blank hc, ih]
  | word hw hbehind _ ih => rw [words_append hw hbehind, ih]

theorem words_eq_iff_spells : words cs = ws ↔ Spells ws cs := by
  constructor
  · intro h
    exact h ▸ spells_words cs
  · exact Spells.words_eq

/-! ## Joined words -/

theorem unwords_cons (w : List Char) (ws : List (List Char)) :
    unwords (w :: ws) = w ++ ws.flatMap (' ' :: ·) := by
  unfold unwords
  induction ws generalizing w with
  | nil => simp
  | cons w' ws ih => simp [List.intercalate_cons_cons, ih]

/-- The text around one of the words: the words before it with a space behind each of them, and
those behind it with a space before each of them. -/
theorem unwords_append_cons (earlier : List (List Char)) (w : List Char)
    (later : List (List Char)) :
    unwords (earlier ++ w :: later) =
      earlier.flatMap (· ++ [' ']) ++ w ++ later.flatMap (' ' :: ·) := by
  induction earlier with
  | nil => simpa using unwords_cons w later
  | cons e earlier ih =>
    obtain ⟨w', rest, hrest⟩ : ∃ w' rest, earlier ++ w :: later = w' :: rest :=
      List.exists_cons_of_ne_nil (by simp)
    have hspace : unwords (e :: w' :: rest) = e ++ ' ' :: unwords (w' :: rest) := by
      simp [unwords_cons]
    rw [List.cons_append, hrest, hspace, ← hrest, ih]
    simp

/-- Each word with a space before it. -/
theorem spells_spaced (h : ∀ w ∈ ws, IsWord w) : Spells ws (ws.flatMap (' ' :: ·)) := by
  induction ws with
  | nil => exact .nil
  | cons w ws ih =>
    obtain ⟨hw, hws⟩ := List.forall_mem_cons.mp h
    rw [List.flatMap_cons, List.cons_append]
    refine .blank (by decide) (.word hw ?_ (ih hws))
    cases ws <;> rfl

theorem spells_unwords (h : ∀ w ∈ ws, IsWord w) : Spells ws (unwords ws) := by
  cases ws with
  | nil => exact .nil
  | cons w ws =>
    obtain ⟨hw, hws⟩ := List.forall_mem_cons.mp h
    rw [unwords_cons]
    refine .word hw ?_ (spells_spaced hws)
    cases ws <;> rfl

/-- Joined words are found again, and other tokens are not. -/
theorem words_unwords_iff : words (unwords ws) = ws ↔ ∀ w ∈ ws, IsWord w := by
  constructor
  · intro h
    exact (words_eq_iff_spells.mp h).isWord
  · intro h
    exact (spells_unwords h).words_eq

end Text

/-! ## Declared types -/

namespace TypeName

theorem toList_joined (name : TypeName) :
    name.joined.toList = Text.unwords (name.tokens.map String.toList) :=
  String.toList_ofList

theorem parse_eq_iff {text : String} {name : TypeName} :
    parse text = name ↔ Text.words text.toList = name.tokens.map String.toList := by
  obtain ⟨tokens⟩ := name
  rw [parse, TypeName.mk.injEq]
  constructor
  · rintro rfl
    simp
  · intro h
    rw [h, List.map_map]
    simp

/-- Reading a declared type puts white space in order. The tokens are those that spell the text:
words without white space, and together they are the text without its white space. Read again in
joined form they are the same, and just the lists of words are read back from their joined form. -/
theorem parse_normalizes_blanks (text : String) :
    (∀ name, parse text = name ↔ Text.Spells (name.tokens.map String.toList) text.toList) ∧
      (∀ token ∈ (parse text).tokens, Text.IsWord token.toList) ∧
      String.join (parse text).tokens =
        String.ofList (text.toList.filter fun c => !Text.isBlank c) ∧
      parse (parse text).joined = parse text ∧
      ∀ tokens, parse (TypeName.mk tokens).joined = ⟨tokens⟩ ↔
        ∀ token ∈ tokens, Text.IsWord token.toList := by
  have hspells (name : TypeName) :
      parse text = name ↔ Text.Spells (name.tokens.map String.toList) text.toList := by
    rw [parse_eq_iff, Text.words_eq_iff_spells]
  have hround (tokens : List String) : parse (TypeName.mk tokens).joined = ⟨tokens⟩ ↔
      ∀ token ∈ tokens, Text.IsWord token.toList := by
    rw [parse_eq_iff, toList_joined, Text.words_unwords_iff, List.forall_mem_map]
  have htext := (hspells (parse text)).mp rfl
  have hwords : ∀ token ∈ (parse text).tokens, Text.IsWord token.toList :=
    List.forall_mem_map.mp htext.isWord
  refine ⟨hspells, hwords, ?_, (hround _).mpr hwords, hround⟩
  rw [← String.toList_inj, String.toList_join, String.toList_ofList, List.flatMap_def,
    htext.flatten_eq]

/-- White space of several kinds, at both ends and inside, and tokens that are no words. -/
theorem parse_normalizes_blanks_of_mixed :
    let text := "\t UNSIGNED \u00a0BIG\u2003INT\n"
    "BIG" ∈ (parse text).tokens ∧ Text.IsWord "BIG".toList ∧
      String.join (parse text).tokens = "UNSIGNEDBIGINT" ∧
      parse (parse text).joined = ⟨["UNSIGNED", "BIG", "INT"]⟩ ∧
      parse (TypeName.mk ["BIG INT", ""]).joined ≠ ⟨["BIG INT", ""]⟩ := by
  intro text
  obtain ⟨-, hwords, hjoin, hagain, hround⟩ := parse_normalizes_blanks text
  have htext : parse text = ⟨["UNSIGNED", "BIG", "INT"]⟩ := by decide
  have hmem : "BIG" ∈ (parse text).tokens := by simp [htext]
  refine ⟨hmem, hwords "BIG" hmem, ?_, ?_, ?_⟩
  · rw [hjoin]
    decide
  · rw [hagain, htext]
  · intro h
    exact ((hround ["BIG INT", ""]).mp h "" (by simp)).1 rfl

end TypeName

end QueryTyping
