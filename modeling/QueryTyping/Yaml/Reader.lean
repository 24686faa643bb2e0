import QueryTyping.Yaml.Node
import QueryTyping.Yaml.Scanner

/-!
# Reading YAML

The tree of a document is read from its tokens. Where a node may stand but the next token belongs
to what surrounds it, the node is empty. The items of a sequence that is the value of a key may
stand at the indentation of the key; such a sequence has no tokens for its beginning and end. An
anchor and a tag may stand before a node in either order, and make an empty node where none
begins.

Every function hands back the tokens that it left. Reading a node always takes at least one token
(`Read`), reading what may be empty takes none or more (`ReadMaybe`); therefore reading ends.
-/

namespace QueryTyping

namespace Yaml

/-- Something read from the beginning of `ts`, and the tokens behind it, which are fewer. -/
abbrev Read (α : Type) (ts : List Token) :=
  Option { r : α × List Token // r.2.length < ts.length }

/-- Something read from the beginning of `ts`, and the tokens behind it, which may be all. -/
abbrev ReadMaybe (α : Type) (ts : List Token) :=
  Option { r : α × List Token // r.2.length ≤ ts.length }

/-- Whether the next token is one of the given ones. -/
def nextIs (stops : List Token) : List Token → Bool
  | [] => false
  | token :: _ => token ∈ stops

/-- Whether a node begins whose anchor and tag, if any, were already read. -/
def beginsContent (block bare : Bool) : List Token → Bool
  | .scalar _ _ :: _ | .flowSequenceStart :: _ | .flowMappingStart :: _ => true
  | .blockSequenceStart :: _ | .blockMappingStart :: _ => block
  | .blockEntry :: _ => bare
  | _ => false

/-- Gives a scalar a tag. The tags of collections mean nothing. -/
def withTag (tag : Option Tag) : Yaml → Yaml
  | scalar text style _ => scalar text style tag
  | node => node

/-- Gives a node an anchor. -/
def withAnchor (number : Option Nat) (node : Yaml) : Yaml :=
  match number with
  | some number => anchored number node
  | none => node

mutual

/-- Reads a node. A node in block style may stand only where `block` says so, and the items of a
sequence without beginning only where `bare` does. -/
def readNode (block bare : Bool) (ts : List Token) : Read Yaml ts :=
  match ts with
  | .aliasOf number :: rest => some ⟨(aliasOf number, rest), Nat.lt_succ_self _⟩
  | .anchor number :: .tag tag :: rest =>
    match readMarked block bare (some number) (some tag) rest with
    | some ⟨r, h⟩ => some ⟨r, by simp only [List.length_cons] at *; omega⟩
    | none => none
  | .tag tag :: .anchor number :: rest =>
    match readMarked block bare (some number) (some tag) rest with
    | some ⟨r, h⟩ => some ⟨r, by simp only [List.length_cons] at *; omega⟩
    | none => none
  | .anchor number :: rest =>
    match readMarked block bare (some number) none rest with
    | some ⟨r, h⟩ => some ⟨r, by simp only [List.length_cons] at *; omega⟩
    | none => none
  | .tag tag :: rest =>
    match readMarked block bare none (some tag) rest with
    | some ⟨r, h⟩ => some ⟨r, by simp only [List.length_cons] at *; omega⟩
    | none => none
  | ts => readContent block bare ts
termination_by (ts.length, 1)
decreasing_by
  all_goals first
    | exact Prod.Lex.right _ (by decide)
    | (simp only [Prod.lex_def, List.length_cons] at *; omega)

/-- Reads the node behind an anchor and a tag, which is empty if no node begins there. -/
def readMarked (block bare : Bool) (number : Option Nat) (tag : Option Tag) (ts : List Token) :
    ReadMaybe Yaml ts :=
  if beginsContent block bare ts then
    match readContent block bare ts with
    | some ⟨(node, behind), h⟩ =>
      some ⟨(withAnchor number (withTag tag node), behind), Nat.le_of_lt h⟩
    | none => none
  else some ⟨(withAnchor number (scalar "" .plain tag), ts), Nat.le_refl _⟩
termination_by (ts.length, 1)

/-- Reads a node that has neither anchor nor tag. -/
def readContent (block bare : Bool) (ts : List Token) : Read Yaml ts :=
  match ts with
  | .scalar text style :: rest => some ⟨(scalar text style none, rest), Nat.lt_succ_self _⟩
  | .flowSequenceStart :: rest =>
    match readFlowItems true rest with
    | some ⟨(items, behind), h⟩ =>
      some ⟨(sequence items, behind), by simp only [List.length_cons] at *; omega⟩
    | none => none
  | .flowMappingStart :: rest =>
    match readFlowEntries true rest with
    | some ⟨(entries, behind), h⟩ =>
      some ⟨(mapping entries, behind), by simp only [List.length_cons] at *; omega⟩
    | none => none
  | .blockSequenceStart :: rest =>
    if block then
      match readBlockItems rest with
      | some ⟨(items, behind), h⟩ =>
        some ⟨(sequence items, behind), by simp only [List.length_cons] at *; omega⟩
      | none => none
    else none
  | .blockMappingStart :: rest =>
    if block then
      match readBlockEntries rest with
      | some ⟨(entries, behind), h⟩ =>
        some ⟨(mapping entries, behind), by simp only [List.length_cons] at *; omega⟩
      | none => none
    else none
  | .blockEntry :: rest =>
    if bare then
      match readSlot true false [.blockEntry, .key, .value, .blockEnd] rest with
      | some ⟨(item, behind), h⟩ =>
        match readBareItems behind with
        | some ⟨(items, behind'), h'⟩ =>
          some ⟨(sequence (item :: items), behind'), by simp only [List.length_cons] at *; omega⟩
        | none => none
      | none => none
    else none
  | _ => none
termination_by (ts.length, 0)
decreasing_by
  all_goals first
    | exact Prod.Lex.right _ (by decide)
    | (simp only [Prod.lex_def, List.length_cons] at *; omega)

/-- Reads a node, or an empty one if the next token is one of `stops`. -/
def readSlot (block bare : Bool) (stops ts : List Token) : ReadMaybe Yaml ts :=
  if nextIs stops ts then some ⟨(empty, ts), Nat.le_refl _⟩
  else
    match readNode block bare ts with
    | some ⟨r, h⟩ => some ⟨r, Nat.le_of_lt h⟩
    | none => none
termination_by (ts.length, 2)

/-- Reads the items of a block sequence and its end. -/
def readBlockItems (ts : List Token) : Read (List Yaml) ts :=
  match ts with
  | .blockEntry :: rest =>
    match readSlot true false [.blockEntry, .blockEnd] rest with
    | some ⟨(item, behind), h⟩ =>
      match readBlockItems behind with
      | some ⟨(items, behind'), h'⟩ =>
        some ⟨(item :: items, behind'), by simp only [List.length_cons] at *; omega⟩
      | none => none
    | none => none
  | .blockEnd :: rest => some ⟨([], rest), Nat.lt_succ_self _⟩
  | _ => none
termination_by (ts.length, 0)
decreasing_by
  all_goals first
    | exact Prod.Lex.right _ (by decide)
    | (simp only [Prod.lex_def, List.length_cons] at *; omega)

/-- Reads the further items of a sequence without beginning and end. -/
def readBareItems (ts : List Token) : ReadMaybe (List Yaml) ts :=
  match ts with
  | .blockEntry :: rest =>
    match readSlot true false [.blockEntry, .key, .value, .blockEnd] rest with
    | some ⟨(item, behind), h⟩ =>
      match readBareItems behind with
      | some ⟨(items, behind'), h'⟩ =>
        some ⟨(item :: items, behind'), by simp only [List.length_cons] at *; omega⟩
      | none => none
    | none => none
  | ts => some ⟨([], ts), Nat.le_refl _⟩
termination_by (ts.length, 0)
decreasing_by
  all_goals first
    | exact Prod.Lex.right _ (by decide)
    | (simp only [Prod.lex_def, List.length_cons] at *; omega)

/-- Reads the entries of a block mapping and its end. -/
def readBlockEntries (ts : List Token) : Read (List (Yaml × Yaml)) ts :=
  match ts with
  | .key :: rest =>
    match readSlot true true [.key, .value, .blockEnd] rest with
    | some ⟨(key, behind), h⟩ =>
      match readBlockValue behind with
      | some ⟨(value, behind'), h'⟩ =>
        match readBlockEntries behind' with
        | some ⟨(entries, behind''), h''⟩ =>
          some ⟨((key, value) :: entries, behind''), by simp only [List.length_cons] at *; omega⟩
        | none => none
      | none => none
    | none => none
  | .blockEnd :: rest => some ⟨([], rest), Nat.lt_succ_self _⟩
  | _ => none
termination_by (ts.length, 3)
decreasing_by
  all_goals first
    | exact Prod.Lex.right _ (by decide)
    | (simp only [Prod.lex_def, List.length_cons] at *; omega)

/-- Reads the value behind a key of a block mapping, which is empty if there is no colon. -/
def readBlockValue (ts : List Token) : ReadMaybe Yaml ts :=
  match ts with
  | .value :: rest =>
    match readSlot true true [.key, .value, .blockEnd] rest with
    | some ⟨(value, behind), h⟩ => some ⟨(value, behind),
      by simp only [List.length_cons] at *; omega⟩
    | none => none
  | ts => some ⟨(empty, ts), Nat.le_refl _⟩
termination_by (ts.length, 2)

/-- Reads the items of a flow sequence and its end; a comma stands before every item but the
first. -/
def readFlowItems (first : Bool) (ts : List Token) : Read (List Yaml) ts :=
  match ts with
  | .flowSequenceEnd :: rest => some ⟨([], rest), Nat.lt_succ_self _⟩
  | .flowEntry :: .flowSequenceEnd :: rest =>
    if first then none else some ⟨([], rest), by simp only [List.length_cons]; omega⟩
  | .flowEntry :: rest =>
    if first then none
    else
      match readFlowItem rest with
      | some ⟨(item, behind), h⟩ =>
        match readFlowItems false behind with
        | some ⟨(items, behind'), h'⟩ =>
          some ⟨(item :: items, behind'), by simp only [List.length_cons] at *; omega⟩
        | none => none
      | none => none
  | ts =>
    if first then
      match readFlowItem ts with
      | some ⟨(item, behind), h⟩ =>
        match readFlowItems false behind with
        | some ⟨(items, behind'), h'⟩ =>
          some ⟨(item :: items, behind'), Nat.lt_trans h' h⟩
        | none => none
      | none => none
    else none
termination_by (ts.length, 4)
decreasing_by
  all_goals first
    | exact Prod.Lex.right _ (by decide)
    | (simp only [Prod.lex_def, List.length_cons] at *; omega)

/-- Reads the key of an entry that is an item of a flow sequence. Where the key is empty, the token
that shows it is taken too, be it a colon, a comma or the end. -/
def readFlowKey (ts : List Token) : ReadMaybe Yaml ts :=
  match ts with
  | .value :: rest | .flowEntry :: rest | .flowSequenceEnd :: rest =>
    some ⟨(empty, rest), Nat.le_succ _⟩
  | ts =>
    match readNode false false ts with
    | some ⟨r, h⟩ => some ⟨r, Nat.le_of_lt h⟩
    | none => none
termination_by (ts.length, 2)

/-- Reads an item of a flow sequence, which may be a single entry of a mapping. -/
def readFlowItem (ts : List Token) : Read Yaml ts :=
  match ts with
  | .key :: rest =>
    match readFlowKey rest with
    | some ⟨(key, behind), h⟩ =>
      match readFlowValue [.flowEntry, .flowSequenceEnd] behind with
      | some ⟨(value, behind'), h'⟩ =>
        some ⟨(mapping [(key, value)], behind'), by simp only [List.length_cons] at *; omega⟩
      | none => none
    | none => none
  | ts => readNode false false ts
termination_by (ts.length, 3)
decreasing_by
  all_goals first
    | exact Prod.Lex.right _ (by decide)
    | (simp only [Prod.lex_def, List.length_cons] at *; omega)

/-- Reads the value behind a key of a flow collection, which is empty if there is no colon. -/
def readFlowValue (stops ts : List Token) : ReadMaybe Yaml ts :=
  match ts with
  | .value :: rest =>
    match readSlot false false stops rest with
    | some ⟨(value, behind), h⟩ => some ⟨(value, behind),
      by simp only [List.length_cons] at *; omega⟩
    | none => none
  | ts => some ⟨(empty, ts), Nat.le_refl _⟩
termination_by (ts.length, 2)

/-- Reads the entries of a flow mapping and its end; a comma stands before every entry but the
first. -/
def readFlowEntries (first : Bool) (ts : List Token) : Read (List (Yaml × Yaml)) ts :=
  match ts with
  | .flowMappingEnd :: rest => some ⟨([], rest), Nat.lt_succ_self _⟩
  | .flowEntry :: .flowMappingEnd :: rest =>
    if first then none else some ⟨([], rest), by simp only [List.length_cons]; omega⟩
  | .flowEntry :: rest =>
    if first then none
    else
      match readFlowPair rest with
      | some ⟨(entry, behind), h⟩ =>
        match readFlowEntries false behind with
        | some ⟨(entries, behind'), h'⟩ =>
          some ⟨(entry :: entries, behind'), by simp only [List.length_cons] at *; omega⟩
        | none => none
      | none => none
  | ts =>
    if first then
      match readFlowPair ts with
      | some ⟨(entry, behind), h⟩ =>
        match readFlowEntries false behind with
        | some ⟨(entries, behind'), h'⟩ =>
          some ⟨(entry :: entries, behind'), Nat.lt_trans h' h⟩
        | none => none
      | none => none
    else none
termination_by (ts.length, 4)
decreasing_by
  all_goals first
    | exact Prod.Lex.right _ (by decide)
    | (simp only [Prod.lex_def, List.length_cons] at *; omega)

/-- Reads an entry of a flow mapping. What stands without a colon behind it is a key without
value. -/
def readFlowPair (ts : List Token) : Read (Yaml × Yaml) ts :=
  match ts with
  | .key :: rest =>
    match readSlot false false [.value, .flowEntry, .flowMappingEnd] rest with
    | some ⟨(key, behind), h⟩ =>
      match readFlowValue [.flowEntry, .flowMappingEnd] behind with
      | some ⟨(value, behind'), h'⟩ =>
        some ⟨((key, value), behind'), by simp only [List.length_cons] at *; omega⟩
      | none => none
    | none => none
  | ts =>
    match readNode false false ts with
    | some ⟨(key, behind), h⟩ => some ⟨((key, empty), behind), h⟩
    | none => none
termination_by (ts.length, 3)
decreasing_by
  all_goals first
    | exact Prod.Lex.right _ (by decide)
    | (simp only [Prod.lex_def, List.length_cons] at *; omega)

end

/-- Reads the one document that the tokens hold. Behind directives, the mark of its start must
follow. -/
def ofTokens? (ts : List Token) : Option Yaml := do
  let (node, behind) ←
    match ts.dropWhile (· = .directive) with
    | .documentStart :: rest =>
      if rest.isEmpty then some (empty, rest)
      else (readSlot true false [.directive, .documentStart, .documentEnd] rest).map (·.1)
    | _ => (readNode true false ts).map (·.1)
  if (behind.dropWhile (· = .documentEnd)).isEmpty then return node else none

/-- Reads a text of YAML that holds one document. -/
def parse? (text : String) : Option Part :=
  ((tokens? text.toList).bind ofTokens?).map Part.ofDocument

end Yaml

end QueryTyping
