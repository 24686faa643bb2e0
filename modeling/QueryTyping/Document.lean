import QueryTyping.Dictionary
import QueryTyping.Json.Basic

/-!
# Reading values from documents

Data formats differ in how they write a text, a truth value or nothing at all, but agree on what
sequences and mappings are. `DataNode` says how the nodes of a format are read; what is defined on
top of it works for every format.

A record is written as a mapping from the names of its fields or, in formats that allow it, as the
sequence of its fields in order. In a mapping, names that are not fields are ignored and no field
may stand twice; in a sequence, fields at the end may be missing. Whether a field may be missing is
up to the field.
-/

namespace QueryTyping

/-- A data format, given by how its nodes are read. -/
class DataNode (ν : Type) where
  /-- The text that a node is. -/
  text? : ν → Option String
  /-- The truth value that a node is. -/
  flag? : ν → Option Bool
  /-- The name of the constant that a node is. -/
  constant? : ν → Option String
  /-- The items of a sequence. -/
  items? : ν → Option (List ν)
  /-- The items of a sequence that may stand for a record. -/
  recordItems? : ν → Option (List ν)
  /-- The entries of a mapping, in order. -/
  entries? : ν → Option (List (String × ν))
  /-- Whether a node stands for the absence of a value; it may be neither fit for that nor for a
  value. -/
  absent? : ν → Option Bool

instance : DataNode Json where
  text? := Json.string?
  flag? := Json.bool?
  constant?
    | .string name => some name
    | .object [(name, .null)] => some name
    | _ => none
  items? := Json.items?
  recordItems? := Json.items?
  entries?
    | .object members => some members
    | _ => none
  absent?
    | .null => some true
    | _ => some false

variable {ν α : Type}

/-- The fields that a record was found to have. -/
structure Fields (ν : Type) where
  entries : List (String × ν)

namespace Fields

/-- The fields of a node that is a record with fields of the given names. -/
def ofNode? [DataNode ν] (names : List String) (node : ν) : Option (Fields ν) :=
  match DataNode.entries? node with
  | some entries =>
    let known := entries.filter fun entry => entry.1 ∈ names
    if (known.map (·.1)).Nodup then some ⟨known⟩ else none
  | none =>
    match DataNode.recordItems? node with
    | some items => if items.length ≤ names.length then some ⟨names.zip items⟩ else none
    | none => none

/-- The node of a field. -/
def get? (fields : Fields ν) (name : String) : Option ν := fields.entries.lookup name

/-- The value of a field that must be there. -/
def required (fields : Fields ν) (name : String) (read : ν → Option α) : Option α :=
  (fields.get? name).bind read

/-- The value of a field that may be missing or stand for nothing. -/
def optional [DataNode ν] (fields : Fields ν) (name : String) (read : ν → Option α) :
    Option (Option α) :=
  match fields.get? name with
  | some node =>
    match DataNode.absent? node with
    | some true => some none
    | some false => (read node).map some
    | none => none
  | none => some none

/-- The value of a field that has a value of its own if it is missing. -/
def withDefault (fields : Fields ν) (name : String) (default : α) (read : ν → Option α) :
    Option α :=
  match fields.get? name with
  | some node => read node
  | none => some default

end Fields

namespace DataNode

/-- The values of the items of a sequence. -/
def list? [DataNode ν] (read : ν → Option α) (node : ν) : Option (List α) :=
  (items? node).bind (List.mapM read)

/-- The values of the entries of a mapping; of two entries with one name the later one counts. -/
def dictionary? [DataNode ν] (read : ν → Option α) (node : ν) : Option (Dictionary α) := do
  let entries ← (← entries? node).mapM fun entry => (read entry.2).map (entry.1, ·)
  return .ofList entries

end DataNode

/-- The object of a dictionary. -/
def Json.ofDictionary (f : α → Json) (d : Dictionary α) : Json :=
  .object (d.entries.map fun entry => (entry.1, f entry.2))

end QueryTyping
