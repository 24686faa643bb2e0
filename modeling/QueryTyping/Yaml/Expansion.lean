import QueryTyping.Yaml.Node

/-!
# How far aliases expand

A small document can stand for a huge one if aliases lead to nodes with further aliases. The number
of aliases that are followed while a document is read is therefore limited, in proportion to the
length of the document. Aliases in parts that nobody reads are not followed and do not count, so
the number depends on what is read: this is what a `Shape` says.
-/

namespace QueryTyping

namespace Yaml

/-- What is read of a node. -/
inductive Shape where
  /-- Nothing. -/
  | ignored
  | scalar
  | list (item : Shape)
  | dictionary (value : Shape)
  /-- A record, given by what is read of the value behind each name. -/
  | record (field : String → Shape)

/-! ## The length of a document -/

mutual

/-- The number of places where a node begins or ends; a scalar and an alias are one place. -/
def length : Yaml → Nat
  | scalar _ _ _ | aliasOf _ => 1
  | sequence items => lengthOfItems items + 2
  | mapping entries => lengthOfEntries entries + 2
  | anchored _ node => length node

/-- The length of some nodes together. -/
def lengthOfItems : List Yaml → Nat
  | [] => 0
  | item :: items => length item + lengthOfItems items

/-- The length of the keys and values of some entries together. -/
def lengthOfEntries : List (Yaml × Yaml) → Nat
  | [] => 0
  | (key, value) :: entries => length key + length value + lengthOfEntries entries

end

/-! ## Following aliases -/

/-- How many aliases may be followed for each place of a document. -/
def followsPerPlace : Nat := 100

namespace Part

/-- Pays for a node, which costs something if it is an alias. -/
def pay? (part : Part) (budget : Nat) : Option Nat :=
  match part.node, budget with
  | aliasOf _, 0 => none
  | aliasOf _, rest + 1 => some rest
  | _, budget => some budget

/-- What is left of a budget when a node was read. -/
def spend? : Shape → Part → Nat → Option Nat
  | .ignored, _, budget => some budget
  | .scalar, part, budget => part.pay? budget
  | .list item, part, budget => do
    let budget ← part.pay? budget
    (part.items?.getD []).foldlM (fun budget part => spend? item part budget) budget
  | .dictionary value, part, budget => do
    let budget ← part.pay? budget
    part.pairs.foldlM (fun budget (key, part) => do spend? value part (← key.pay? budget)) budget
  | .record field, part, budget => do
    let budget ← part.pay? budget
    part.pairs.foldlM (fun budget (key, part) => do
      spend? (field (key.content.text?.getD "")) part (← key.pay? budget)) budget

/-- Whether the aliases that are followed to read a document of a shape are few enough. -/
def affords (shape : Shape) (document : Part) : Bool :=
  (document.spend? shape (document.node.length * followsPerPlace)).isSome

end Part

end Yaml

end QueryTyping
