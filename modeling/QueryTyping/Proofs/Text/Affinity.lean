import Mathlib.Data.List.Forall2
import QueryTyping.Proofs.Text.Words

/-!
# Affinity token by token

The core type of a declared type is found in the text of all its tokens, joined by spaces and with
large letters. No part that a rule looks for contains a space. So wherever it stands in the joined
text, it stands inside one token (`Text.liesInWord_of_unwords`), also if tokens are empty or contain
spaces of their own.

Which rule counts therefore depends only on which tokens there are, and not on the case of their
letters; more tokens can only make an earlier rule count (`TypeName.affinity_token_by_token`).
-/

namespace QueryTyping

namespace Text

variable {pattern text text' before part behind : List Char} {ws : List (List Char)}

/-! ## Large and small letters -/

theorem toNat_toLower (c : Char) :
    c.toLower.toNat = if 65 ≤ c.toNat ∧ c.toNat ≤ 90 then c.toNat + 32 else c.toNat := by
  unfold Char.toLower
  simp only [ge_iff_le, UInt32.le_iff_toNat_le, Char.toNat_val]
  split
  · next h =>
    have h : 65 ≤ c.toNat ∧ c.toNat ≤ 90 := h
    have hshift : ('a'.val - 'A'.val).toNat = 32 := by decide
    rw [if_pos h, ← Char.toNat_val, UInt32.toNat_add, Char.toNat_val, hshift]
    omega
  · next h => exact (if_neg h).symm

theorem toNat_toUpper (c : Char) :
    c.toUpper.toNat = if 97 ≤ c.toNat ∧ c.toNat ≤ 122 then c.toNat - 32 else c.toNat := by
  unfold Char.toUpper
  simp only [UInt32.le_iff_toNat_le, Char.toNat_val]
  split
  · next h =>
    have h : 97 ≤ c.toNat ∧ c.toNat ≤ 122 := h
    -- the difference is negative, and the sum comes round again
    have hshift : ('A'.val - 'a'.val).toNat = 4294967264 := by decide
    rw [if_pos h, ← Char.toNat_val, UInt32.toNat_add, Char.toNat_val, hshift]
    omega
  · next h => exact (if_neg h).symm

theorem toLower_toUpper (c : Char) : c.toUpper.toLower = c.toLower := by
  rw [← Char.toNat_inj, toNat_toLower, toNat_toLower, toNat_toUpper]
  grind

theorem toUpper_toLower (c : Char) : c.toLower.toUpper = c.toUpper := by
  rw [← Char.toNat_inj, toNat_toUpper, toNat_toUpper, toNat_toLower]
  grind

/-- A space is not a letter. -/
theorem eq_space_of_toLower {c : Char} (h : c.toLower = ' ') : c = ' ' := by
  have hspace : ' '.toNat = 32 := rfl
  rw [← Char.toNat_inj, toNat_toLower, hspace] at h
  rw [← Char.toNat_inj, hspace]
  grind

/-- The same text but for the case of the letters A to Z. -/
def SameUpToCase (a b : List Char) : Prop := a.map Char.toLower = b.map Char.toLower

instance (a b : List Char) : Decidable (SameUpToCase a b) :=
  inferInstanceAs (Decidable (_ = _))

theorem SameUpToCase.ne_nil (h : SameUpToCase part pattern) (hne : pattern ≠ []) : part ≠ [] := by
  rintro rfl
  exact hne (List.map_eq_nil_iff.mp h.symm)

theorem SameUpToCase.not_mem_space (h : SameUpToCase part pattern) (hspace : ' ' ∉ pattern) :
    ' ' ∉ part := by
  intro hmem
  have hmem : ' ' ∈ pattern.map Char.toLower := h ▸ List.mem_map.mpr ⟨' ', hmem, rfl⟩
  obtain ⟨c, hc, hlower⟩ := List.mem_map.mp hmem
  exact hspace (eq_space_of_toLower hlower ▸ hc)

/-- For a pattern in large letters it is the same to compare in large letters as in small ones. -/
theorem sameUpToCase_iff_map_toUpper (hpattern : pattern.map Char.toUpper = pattern) :
    SameUpToCase part pattern ↔ part.map Char.toUpper = pattern := by
  have hlower : Char.toLower ∘ Char.toUpper = Char.toLower := funext toLower_toUpper
  have hupper : Char.toUpper ∘ Char.toLower = Char.toUpper := funext toUpper_toLower
  constructor
  · intro h
    calc part.map Char.toUpper
        = (part.map Char.toLower).map Char.toUpper := by rw [List.map_map, hupper]
      _ = (pattern.map Char.toLower).map Char.toUpper := by rw [h]
      _ = pattern := by rw [List.map_map, hupper, hpattern]
  · intro h
    calc part.map Char.toLower
        = (part.map Char.toUpper).map Char.toLower := by rw [List.map_map, hlower]
      _ = pattern.map Char.toLower := by rw [h]

/-! ## Parts of a text -/

/-- The pattern stands somewhere in the text, in letters of whatever case. -/
def HasPart (pattern text : List Char) : Prop :=
  ∃ before part behind, text = before ++ part ++ behind ∧ SameUpToCase part pattern

/-- A pattern that is found among the images of characters is the image of a part. -/
theorem contains_map_iff (f : Char → Char) :
    contains pattern (text.map f) = true ↔
      ∃ before part behind, text = before ++ part ++ behind ∧ part.map f = pattern := by
  rw [contains_iff]
  constructor
  · rintro ⟨before, behind, h⟩
    obtain ⟨left, behind, rfl, hleft, -⟩ := List.map_eq_append_iff.mp h
    obtain ⟨before, part, rfl, -, hpart⟩ := List.map_eq_append_iff.mp hleft
    exact ⟨before, part, behind, rfl, hpart⟩
  · rintro ⟨before, part, behind, rfl, rfl⟩
    exact ⟨before.map f, behind.map f, by simp⟩

theorem hasPart_iff_contains :
    HasPart pattern text ↔
      contains (pattern.map Char.toLower) (text.map Char.toLower) = true :=
  (contains_map_iff Char.toLower).symm

instance (pattern text : List Char) : Decidable (HasPart pattern text) :=
  decidable_of_iff _ hasPart_iff_contains.symm

theorem hasPart_congr (h : SameUpToCase text text') :
    HasPart pattern text ↔ HasPart pattern text' := by
  rw [hasPart_iff_contains, hasPart_iff_contains, h]

theorem contains_toUpper_iff (hpattern : pattern.map Char.toUpper = pattern) :
    contains pattern (text.map Char.toUpper) = true ↔ HasPart pattern text := by
  simp only [contains_map_iff, HasPart, sameUpToCase_iff_map_toUpper hpattern]

/-! ## Parts of joined words -/

/-- A part of the joined words, given by what stands before it and behind it, lies in one of the
words: the words before that one are before the part, and the words behind it are behind it. -/
def LiesInWord (ws : List (List Char)) (before part behind : List Char) : Prop :=
  ∃ earlier left right later, ws = earlier ++ (left ++ part ++ right) :: later ∧
    before = earlier.flatMap (· ++ [' ']) ++ left ∧ behind = right ++ later.flatMap (' ' :: ·)

theorem LiesInWord.exists_mem (h : LiesInWord ws before part behind) :
    ∃ w ∈ ws, ∃ left right, w = left ++ part ++ right := by
  obtain ⟨earlier, left, right, later, rfl, -, -⟩ := h
  exact ⟨left ++ part ++ right, by simp, left, right, rfl⟩

/-- Where a space follows, no part without a space reaches further. -/
theorem exists_of_append_spaced {rest : List Char} (hspace : ' ' ∉ part)
    (h : part ++ behind = rest ++ ws.flatMap (' ' :: ·)) :
    ∃ right, rest = part ++ right ∧ behind = right ++ ws.flatMap (' ' :: ·) := by
  rcases List.append_eq_append_iff.mp h with ⟨right, hrest, hbehind⟩ | ⟨more, hpart, hspaced⟩
  · exact ⟨right, hrest, hbehind⟩
  · -- more of the part would begin with the space behind the word
    cases more with
    | nil => exact ⟨[], by simpa using hpart.symm, by simpa using hspaced.symm⟩
    | cons c more =>
      cases ws with
      | nil => simp at hspaced
      | cons w ws =>
        simp only [List.flatMap_cons, List.cons_append, List.cons.injEq] at hspaced
        rw [hpart, hspaced.1] at hspace
        exact absurd (List.mem_append_right rest List.mem_cons_self) hspace

/-- No part without a space reaches over the end of a word. -/
theorem liesInWord_of_unwords (hne : part ≠ []) (hspace : ' ' ∉ part)
    (h : unwords ws = before ++ part ++ behind) : LiesInWord ws before part behind := by
  induction ws generalizing before with
  | nil =>
    have hnil : before ++ part ++ behind = [] := h.symm
    simp [hne] at hnil
  | cons w ws ih =>
    rw [unwords_cons, List.append_assoc] at h
    rcases List.append_eq_append_iff.mp h with ⟨rest, hbefore, hspaced⟩ | ⟨rest, hw, hpart⟩
    · -- the part begins behind the word, so there are words behind it, and a space before them
      cases ws with
      | nil => simp [hne] at hspaced
      | cons w' ws =>
        rw [List.flatMap_cons, List.cons_append, ← unwords_cons] at hspaced
        cases rest with
        | nil =>
          obtain ⟨c, part, rfl⟩ := List.exists_cons_of_ne_nil hne
          simp only [List.nil_append, List.cons_append, List.cons.injEq] at hspaced
          exact absurd (hspaced.1 ▸ List.mem_cons_self) hspace
        | cons c rest =>
          simp only [List.cons_append, List.cons.injEq] at hspaced
          obtain ⟨rfl, hunwords⟩ := hspaced
          obtain ⟨earlier, left, right, later, hws, hrest, hbehind⟩ :=
            ih (by rw [hunwords, List.append_assoc])
          exact ⟨w :: earlier, left, right, later, by rw [hws, List.cons_append],
            by simp [hbefore, hrest], hbehind⟩
    · obtain ⟨right, hrest, hbehind⟩ := exists_of_append_spaced hspace hpart
      exact ⟨[], before, right, ws, by simp [hw, hrest], by simp, hbehind⟩

theorem hasPart_unwords_iff (hne : pattern ≠ []) (hspace : ' ' ∉ pattern) :
    HasPart pattern (unwords ws) ↔ ∃ w ∈ ws, HasPart pattern w := by
  constructor
  · rintro ⟨before, part, behind, h, hpart⟩
    have hlies := liesInWord_of_unwords (hpart.ne_nil hne) (hpart.not_mem_space hspace) h
    obtain ⟨w, hw, left, right, hsplit⟩ := hlies.exists_mem
    exact ⟨w, hw, left, part, right, hsplit, hpart⟩
  · rintro ⟨w, hw, left, part, right, rfl, hpart⟩
    obtain ⟨earlier, later, rfl⟩ := List.append_of_mem hw
    refine ⟨earlier.flatMap (· ++ [' ']) ++ left, part,
      right ++ later.flatMap (' ' :: ·), ?_, hpart⟩
    rw [unwords_append_cons]
    simp

end Text

/-! ## Rules -/

namespace TypeName

variable {name other : TypeName}

/-- The pattern stands in one of the tokens, in letters of whatever case. -/
def HasPart (name : TypeName) (pattern : String) : Prop :=
  ∃ token ∈ name.tokens, Text.HasPart pattern.toList token.toList

instance (name : TypeName) (pattern : String) : Decidable (name.HasPart pattern) :=
  inferInstanceAs (Decidable (∃ token ∈ name.tokens, _))

/-- The place in the table of the rule that counts: the first that applies to the joined text, or
the place behind the last rule. -/
def ruleIndex (name : TypeName) : Nat :=
  affinityRules.findIdx fun rule =>
    Text.contains rule.1.toList (name.joined.toList.map Char.toUpper)

/-- Rules look for some large letters. -/
theorem pattern_of_mem_affinityRules : ∀ rule ∈ affinityRules,
    rule.1.toList ≠ [] ∧ ' ' ∉ rule.1.toList ∧ rule.1.toList.map Char.toUpper = rule.1.toList := by
  decide

theorem contains_joined_iff {rule : String × CoreType} (hrule : rule ∈ affinityRules) :
    Text.contains rule.1.toList (name.joined.toList.map Char.toUpper) = true ↔
      name.HasPart rule.1 := by
  obtain ⟨hne, hspace, hupper⟩ := pattern_of_mem_affinityRules rule hrule
  rw [Text.contains_toUpper_iff hupper, toList_joined, Text.hasPart_unwords_iff hne hspace]
  simp [HasPart]

theorem affinity_eq (name : TypeName) :
    name.affinity = (affinityRules[name.ruleIndex]?.map Prod.snd).getD .float := by
  rw [ruleIndex, ← List.find?_eq_getElem?_findIdx, affinity]
  cases affinityRules.find? _ <;> rfl

/-- A declared type with more parts in it has an earlier rule. -/
theorem ruleIndex_le (h : ∀ pattern, name.HasPart pattern → other.HasPart pattern) :
    other.ruleIndex ≤ name.ruleIndex := by
  refine List.findIdx_le_findIdx fun rule hrule hname => ?_
  exact (contains_joined_iff hrule).mpr (h _ ((contains_joined_iff hrule).mp hname))

theorem affinity_congr (h : ∀ pattern, name.HasPart pattern ↔ other.HasPart pattern) :
    other.affinity = name.affinity := by
  have hindex : other.ruleIndex = name.ruleIndex :=
    Nat.le_antisymm (ruleIndex_le fun pattern => (h pattern).mp)
      (ruleIndex_le fun pattern => (h pattern).mpr)
  rw [affinity_eq, affinity_eq, hindex]

theorem HasPart.mono {pattern : String} (hname : name.HasPart pattern)
    (h : name.tokens ⊆ other.tokens) : other.HasPart pattern := by
  obtain ⟨token, htoken, hpart⟩ := hname
  exact ⟨token, h htoken, hpart⟩

theorem hasPart_congr {pattern : String} (h : List.Forall₂
      (fun token token' => Text.SameUpToCase token.toList token'.toList) name.tokens other.tokens) :
    name.HasPart pattern ↔ other.HasPart pattern := by
  obtain ⟨tokens⟩ := name
  obtain ⟨tokens'⟩ := other
  simp only [HasPart] at h ⊢
  induction h with
  | nil => rfl
  | cons hhead _ ih =>
    simp only [List.mem_cons, exists_eq_or_imp, Text.hasPart_congr hhead, ih]

/-- The core type of a declared type is found token by token. The rule that counts is the first one
whose part stands in some token, in letters of any case; without such a rule the core type is
`float`. Wherever a part of a rule stands in the joined text, it lies in one token. So neither the
order of the tokens nor the number of times that each is there matters, nor the case of the letters;
and with more tokens the same rule counts or an earlier one. -/
theorem affinity_token_by_token (name : TypeName) :
    name.ruleIndex = affinityRules.findIdx (fun rule => name.HasPart rule.1) ∧
      name.affinity = (affinityRules[name.ruleIndex]?.map Prod.snd).getD .float ∧
      (∀ rule ∈ affinityRules, ∀ before part behind,
        name.joined.toList = before ++ part ++ behind →
        Text.SameUpToCase part rule.1.toList →
        Text.LiesInWord (name.tokens.map String.toList) before part behind) ∧
      (∀ other : TypeName, (∀ token, token ∈ other.tokens ↔ token ∈ name.tokens) →
        other.affinity = name.affinity) ∧
      (∀ other : TypeName, List.Forall₂
          (fun token token' => Text.SameUpToCase token.toList token'.toList)
          name.tokens other.tokens →
        other.affinity = name.affinity) ∧
      ∀ other : TypeName, name.tokens ⊆ other.tokens → other.ruleIndex ≤ name.ruleIndex := by
  refine ⟨?_, affinity_eq name, ?_, ?_, ?_, ?_⟩
  · refine Nat.le_antisymm ?_ ?_
    · refine List.findIdx_le_findIdx fun rule hrule hpart => ?_
      exact (contains_joined_iff hrule).mpr (of_decide_eq_true hpart)
    · refine List.findIdx_le_findIdx fun rule hrule hcontains => ?_
      exact decide_eq_true ((contains_joined_iff hrule).mp hcontains)
  · intro rule hrule before part behind hjoined hpart
    obtain ⟨hne, hspace, -⟩ := pattern_of_mem_affinityRules rule hrule
    rw [toList_joined] at hjoined
    exact Text.liesInWord_of_unwords (hpart.ne_nil hne) (hpart.not_mem_space hspace) hjoined
  · intro other hother
    refine affinity_congr fun pattern => ⟨fun h => ?_, fun h => ?_⟩
    · exact h.mono fun token htoken => (hother token).mpr htoken
    · exact h.mono fun token htoken => (hother token).mp htoken
  · intro other hother
    exact affinity_congr fun pattern => hasPart_congr hother
  · intro other hother
    exact ruleIndex_le fun pattern h => h.mono hother

/-- `BLOB` is spread over two tokens and does not count, but `CHAR` does. The tokens may be put in
another order, repeated and written in other letters; with `point` an earlier rule applies. -/
theorem affinity_token_by_token_of_spread :
    let name : TypeName := ⟨["BLO", "B é", "", "varChar"]⟩
    name.affinity = .string ∧
      Text.LiesInWord (name.tokens.map String.toList) "BLO B é  var".toList "Char".toList [] ∧
      (TypeName.mk ["varChar", "", "B é", "BLO", "BLO"]).affinity = .string ∧
      (TypeName.mk ["blo", "b é", "", "VARcHAR"]).affinity = .string ∧
      (TypeName.mk ["BLO", "point", "B é", "", "varChar"]).ruleIndex ≤ name.ruleIndex := by
  intro name
  obtain ⟨hindex, haffinity, hlies, hsame, hcase, hmore⟩ := affinity_token_by_token name
  have hname : name.affinity = .string := by
    have hfirst : affinityRules.findIdx (fun rule => name.HasPart rule.1) = 1 := by decide
    rw [haffinity, hindex, hfirst]
    rfl
  refine ⟨hname, ?_, ?_, ?_, ?_⟩
  · exact hlies ("CHAR", .string) (by decide) _ _ _ (by decide) (by decide)
  · rw [hsame _ ?_, hname]
    intro token
    simp only [name, List.mem_cons, List.not_mem_nil, or_false]
    grind
  · rw [hcase _ ?_, hname]
    exact .cons (by decide) (.cons (by decide) (.cons (by decide) (.cons (by decide) .nil)))
  · exact hmore _ (by simp [name])

end TypeName

end QueryTyping
