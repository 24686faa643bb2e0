import QueryTyping.Document
import QueryTyping.Yaml.Tag

/-!
# YAML documents

A document is a tree of scalars, sequences and mappings. A scalar is a text; what else it stands
for depends on what is expected in its place. Only a plain scalar, one without quotation marks, can
stand for nothing or, if it is empty, for an empty collection. Records are mappings; a sequence
never stands for one.

A node may carry an anchor, and an alias elsewhere in the document then stands for that node, even
inside of the node itself. What an alias stands for is therefore looked up only where it is needed:
reading works on a node together with all nodes of its document that carry an anchor.
-/

namespace QueryTyping

/-- A node of a YAML document. -/
inductive Yaml where
  /-- A text. -/
  | scalar (text : String) (style : Yaml.ScalarStyle) (tag : Option Yaml.Tag)
  | sequence (items : List Yaml)
  | mapping (entries : List (Yaml × Yaml))
  /-- A node that carries an anchor. -/
  | anchored (anchor : Nat) (node : Yaml)
  /-- The node that carries an anchor elsewhere. -/
  | aliasOf (anchor : Nat)

namespace Yaml

/-- The node where nothing is written. -/
def empty : Yaml := scalar "" .plain none

/-! ## Anchors -/

mutual

/-- The nodes with anchors in a node, from the first to the last. -/
def anchors : Yaml → List (Nat × Yaml)
  | scalar _ _ _ | aliasOf _ => []
  | sequence items => anchorsOfItems items
  | mapping entries => anchorsOfEntries entries
  | anchored anchor node => (anchor, node) :: anchors node

/-- The nodes with anchors in some nodes. -/
def anchorsOfItems : List Yaml → List (Nat × Yaml)
  | [] => []
  | item :: items => anchors item ++ anchorsOfItems items

/-- The nodes with anchors in the keys and values of some entries. -/
def anchorsOfEntries : List (Yaml × Yaml) → List (Nat × Yaml)
  | [] => []
  | (key, value) :: entries => anchors key ++ anchors value ++ anchorsOfEntries entries

end

/-- A node with what the aliases in it stand for. -/
structure Part where
  node : Yaml
  /-- The nodes with anchors, of which the first with an anchor counts. -/
  anchors : List (Nat × Yaml)

/-- A whole document. Of two nodes with one anchor the later one counts. -/
def Part.ofDocument (node : Yaml) : Part where
  node
  anchors := node.anchors.reverse

/-! ## Scalars -/

/-- The texts that stand for nothing. -/
def nullTexts : List String := ["~", "null", "Null", "NULL"]

/-- The text of a scalar. -/
def text? : Yaml → Option String
  | scalar text _ _ => some text
  | _ => none

/-- The truth value of a scalar, which is plain or, if its tag asks for a truth value, in block
style with the lines as they are. -/
def flag? : Yaml → Option Bool
  | scalar text style tag =>
    if style = .plain || (style = .literal && tag = some .bool) then
      if text ∈ ["true", "True", "TRUE"] then some true
      else if text ∈ ["false", "False", "FALSE"] then some false
      else none
    else none
  | _ => none

/-- Whether a node stands for nothing, which only a plain scalar can. With a tag it does so only if
the tag asks for it, and then its text must say so too. -/
def absent? : Yaml → Option Bool
  | scalar text .plain none => some (text ∈ "" :: nullTexts)
  | scalar text .plain (some tag) =>
    if tag ≠ .null then some false else if text ∈ nullTexts then some true else none
  | _ => some false

/-- The name of the constant that a scalar is: its text, or behind an exclamation mark its tag if
nothing else is written. -/
def constant? : Yaml → Option String
  | scalar text style tag =>
    match tag.bind Tag.name? with
    | some name => if style = .plain && text ∈ "" :: nullTexts then some name else none
    | none => some text
  | _ => none

namespace Part

/-- The node itself, without its anchor, or the one that an alias stands for. -/
def content (part : Part) : Yaml :=
  match part.node with
  | aliasOf anchor => (part.anchors.lookup anchor).getD empty
  | anchored _ node => node
  | node => node

/-- The items of a sequence; there are none where nothing is written. -/
def items? (part : Part) : Option (List Part) :=
  match part.content with
  | sequence items => some (items.map (⟨·, part.anchors⟩))
  | scalar "" .plain _ => some []
  | _ => none

/-- The keys and values of a mapping. -/
def pairs (part : Part) : List (Part × Part) :=
  match part.content with
  | mapping entries => entries.map fun (key, value) => (⟨key, part.anchors⟩, ⟨value, part.anchors⟩)
  | _ => []

/-- The entries of a mapping, whose keys must be scalars; there are none where nothing is
written. -/
def entries? (part : Part) : Option (List (String × Part)) :=
  match part.content with
  | mapping _ | scalar "" .plain _ =>
    part.pairs.mapM fun (key, value) => key.content.text?.map (·, value)
  | _ => none

instance : DataNode Part where
  text? part := part.content.text?
  flag? part := part.content.flag?
  constant? part := part.content.constant?
  items? := items?
  recordItems? _ := none
  entries? := entries?
  absent? part := part.content.absent?

end Part

end Yaml

end QueryTyping
