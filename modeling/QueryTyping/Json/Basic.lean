/-!
# JSON values

The values of the data format JSON. Members of an object are kept in their order, repetitions
included, because a record and a map treat a repetition differently.

A number is an integer that fits into 64 bits, signed or unsigned, or else a decimal fraction,
held as a significand and a power of ten. `unreadable` stands for a part of a text that is well
formed but has no value here: it may stand where it is ignored.
-/

namespace QueryTyping

/-- A number of JSON. -/
inductive JsonNumber where
  | integer (value : Int)
  /-- The number `significand * 10 ^ exponent`, or its negative. -/
  | decimal (negative : Bool) (significand : Nat) (exponent : Int)
  deriving DecidableEq

/-- A value of JSON. -/
inductive Json where
  | null
  | bool (value : Bool)
  | number (value : JsonNumber)
  | string (value : String)
  | array (items : List Json)
  | object (members : List (String × Json))
  /-- A well-formed text without a value: a number out of range, a text with half a surrogate
  pair, or a container nested too deeply. -/
  | unreadable

namespace Json

/-- The value of an integer. -/
def ofInt (value : Int) : Json := .number (.integer value)

/-- The value of a natural number. -/
def ofNat (value : Nat) : Json := ofInt value

/-- An array of texts. -/
def ofStrings (texts : List String) : Json := .array (texts.map .string)

/-- The value, or null in the absence of one. -/
def ofOption {α : Type} (f : α → Json) : Option α → Json
  | some value => f value
  | none => .null

/-- The integer that a value is. -/
def int? : Json → Option Int
  | number (.integer value) => some value
  | _ => none

/-- The natural number below a limit that a value is. -/
def natBelow? (limit : Nat) (json : Json) : Option Nat :=
  json.int?.bind fun value =>
    if 0 ≤ value ∧ value < limit then some value.toNat else none

/-- The unsigned number of 8 bits that a value is. -/
def uint8? (json : Json) : Option UInt8 := (json.natBelow? UInt8.size).map Nat.toUInt8

/-- The unsigned number of 32 bits that a value is. -/
def uint32? (json : Json) : Option UInt32 := (json.natBelow? UInt32.size).map Nat.toUInt32

/-- The unsigned number of 64 bits that a value is. -/
def uint64? (json : Json) : Option UInt64 := (json.natBelow? UInt64.size).map Nat.toUInt64

/-- The signed number of 64 bits that a value is. -/
def int64? (json : Json) : Option Int64 :=
  json.int?.bind fun value =>
    if Int64.minValue.toInt ≤ value ∧ value ≤ Int64.maxValue.toInt then some value.toInt64 else none

/-- The text that a value is. -/
def string? : Json → Option String
  | string value => some value
  | _ => none

/-- The truth value that a value is. -/
def bool? : Json → Option Bool
  | bool value => some value
  | _ => none

/-- The items that a value has. -/
def items? : Json → Option (List Json)
  | array items => some items
  | _ => none

/-- The last member of a name. -/
def member? (name : String) : Json → Option Json
  | object members => (members.reverse.lookup name)
  | _ => none

mutual

/-- Whether every part of a value can be read. -/
def isReadable : Json → Bool
  | null | bool _ | number _ | string _ => true
  | array items => areReadable items
  | object members => haveReadable members
  | unreadable => false

/-- Whether every part of every item can be read. -/
def areReadable : List Json → Bool
  | [] => true
  | item :: rest => item.isReadable && areReadable rest

/-- Whether every part of every member can be read. -/
def haveReadable : List (String × Json) → Bool
  | [] => true
  | (_, value) :: rest => value.isReadable && haveReadable rest

end

/-- The members of which no later one has the same name. -/
def lastMembers : List (String × Json) → List (String × Json)
  | [] => []
  | (name, value) :: rest =>
    if rest.any (·.1 == name) then lastMembers rest else (name, value) :: lastMembers rest

mutual

/-- The value with the last of several members of one name alone, at every place. -/
def dedup : Json → Json
  | array items => .array (dedupItems items)
  | object members => .object (lastMembers (dedupMembers members))
  | other => other

/-- `dedup` for every item. -/
def dedupItems : List Json → List Json
  | [] => []
  | item :: rest => item.dedup :: dedupItems rest

/-- `dedup` for the value of every member. -/
def dedupMembers : List (String × Json) → List (String × Json)
  | [] => []
  | (name, value) :: rest => (name, value.dedup) :: dedupMembers rest

end

end Json

end QueryTyping
