import QueryTyping.Document
import QueryTyping.InferredType
import QueryTyping.Json.Number
import QueryTyping.Json.Printer

/-!
# Types and literals as JSON

Core types are written by name. An inferred type or a literal is an object with one member, named
for its kind, or the name alone if the kind says everything.

A floating-point literal is read from a number, and written as the sixteen hexadecimal digits of
its bits, so that no bit is lost.
-/

namespace QueryTyping

variable {ν : Type}

namespace CoreType

/-- The name of a core type. -/
def name : CoreType → String
  | integer => "Integer"
  | float => "Float"
  | string => "String"
  | blob => "Blob"
  | boolean => "Boolean"
  | any => "Any"

/-- The core type of a name. -/
def ofName? (name : String) : Option CoreType := all.find? (·.name == name)

/-- A core type as JSON. -/
def toJson (core : CoreType) : Json := .string core.name

/-- Reads a core type. -/
def ofNode? [DataNode ν] (node : ν) : Option CoreType := (DataNode.constant? node).bind ofName?

@[simp] theorem ofName?_name (core : CoreType) : ofName? core.name = some core := by
  cases core <;> decide

end CoreType

namespace ColumnType

/-- A column type as JSON. -/
def toJson (ty : ColumnType) : Json :=
  .object [("nullable", .bool ty.nullable), ("type", ty.core.toJson)]

/-- Reads a column type. -/
def ofNode? [DataNode ν] (node : ν) : Option ColumnType := do
  let fields ← Fields.ofNode? ["nullable", "type"] node
  return {
    nullable := ← fields.required "nullable" DataNode.flag?
    core := ← fields.required "type" CoreType.ofNode? }

end ColumnType

namespace Literal

/-- The sixteen hexadecimal digits of the bits of a floating-point number. -/
def floatBits (value : Float) : String := String.ofList (Json.hexDigits 16 value.toBits.toNat)

/-- A number literal as JSON. -/
def numericToJson : Int64 ⊕ Float → Json
  | .inl value => .object [("Integer", .ofInt value.toInt)]
  | .inr value => .object [("Float", .object [("f64", .string (floatBits value))])]

/-- A literal as JSON. -/
def toJson : Literal → Json
  | null => .string "Null"
  | currentTime => .string "CurrentTime"
  | currentDate => .string "CurrentDate"
  | currentTimestamp => .string "CurrentTimestamp"
  | string text => .object [("String", .string text)]
  | blob bytes => .object [("Blob", .array (bytes.map fun byte => .ofNat byte.toNat))]
  | integer value => .object [("Numeric", numericToJson (.inl value))]
  | float value => .object [("Numeric", numericToJson (.inr value))]

/-- Reads a number literal. -/
def numericOfJson? : Json → Option (Int64 ⊕ Float)
  | .object [("Integer", value)] => value.int64?.map .inl
  | .object [("Float", value)] => value.float?.map .inr
  | _ => none

/-- The literal of a number. -/
def ofNumeric : Int64 ⊕ Float → Literal
  | .inl value => integer value
  | .inr value => float value

/-- The literal that a constant names. -/
def ofName? : String → Option Literal
  | "Null" => some null
  | "CurrentTime" => some currentTime
  | "CurrentDate" => some currentDate
  | "CurrentTimestamp" => some currentTimestamp
  | _ => none

/-- Reads a literal. -/
def ofJson? : Json → Option Literal
  | .object [("String", value)] => value.string?.map string
  | .object [("Blob", value)] => (DataNode.list? Json.uint8? value).map blob
  | .object [("Numeric", value)] => (numericOfJson? value).map ofNumeric
  | json => (DataNode.constant? json).bind ofName?

end Literal

namespace InferredType

/-- An inferred type as JSON. -/
def toJson : InferredType → Json
  | column ty => .object [("Concrete", ty.toJson)]
  | oneOf alternatives => .object [("OneOf", .array (alternatives.map ColumnType.toJson))]
  | cast input result =>
    .object [("DependentlyNull",
      .object [("if_null", input.toJson), ("then_null", result.toJson)])]
  | var id => .object [("Variable", .ofNat id.toNat)]

end InferredType

/-! ## Reading inferred types

A cast holds two types, so reading goes down into the value. What is read next is a part of the
value, so its size is smaller. -/

namespace Fields

theorem sizeOf_lt_of_mem_entries {fields : Fields Json} {names : List String} {json : Json}
    (h : ofNode? names json = some fields) {entry : String × Json}
    (hentry : entry ∈ fields.entries) : sizeOf entry.2 < sizeOf json := by
  unfold ofNode? at h
  split at h
  · next members hmembers =>
    dsimp only at h
    split at h
    · cases h
      have hmem : entry ∈ members := (List.mem_filter.1 hentry).1
      cases json <;> simp only [DataNode.entries?, reduceCtorEq, Option.some.injEq] at hmembers
      subst hmembers
      have := List.sizeOf_lt_of_mem hmem
      obtain ⟨name, value⟩ := entry
      simp only [Json.object.sizeOf_spec, Prod.mk.sizeOf_spec] at this ⊢
      omega
    · cases h
  · split at h
    · next items hitems =>
      split at h
      · cases h
        have hmem : entry.2 ∈ items := by
          obtain ⟨name, value⟩ := entry
          exact (List.of_mem_zip hentry).2
        cases json <;> simp only [DataNode.recordItems?, Json.items?, reduceCtorEq,
          Option.some.injEq] at hitems
        subst hitems
        have := List.sizeOf_lt_of_mem hmem
        simp only [Json.array.sizeOf_spec]
        omega
      · cases h
    · cases h

theorem mem_entries_of_get? {ν : Type} {fields : Fields ν} {name : String} {node : ν}
    (h : fields.get? name = some node) : (name, node) ∈ fields.entries := by
  obtain ⟨entries⟩ := fields
  simp only [get?] at h ⊢
  induction entries with
  | nil => simp at h
  | cons entry rest ih =>
    obtain ⟨key, value⟩ := entry
    rw [List.lookup_cons] at h
    by_cases hkey : name = key
    · subst hkey
      simp only [BEq.rfl, Option.some.injEq] at h
      simp [h]
    · have hne : (name == key) = false := by simpa using hkey
      rw [hne] at h
      exact List.mem_cons_of_mem _ (ih h)

/-- What a field of a value holds is smaller than the value. -/
theorem sizeOf_get?_lt {fields : Fields Json} {names : List String} {json : Json}
    (h : ofNode? names json = some fields) {name : String} {node : Json}
    (hnode : fields.get? name = some node) : sizeOf node < sizeOf json :=
  sizeOf_lt_of_mem_entries h (mem_entries_of_get? hnode)

end Fields

namespace InferredType

/-- Reads an inferred type. -/
def ofJson? (json : Json) : Option InferredType :=
  match json with
  | .object [("Concrete", ty)] => (ColumnType.ofNode? ty).map column
  | .object [("OneOf", alternatives)] =>
    (DataNode.list? ColumnType.ofNode? alternatives).map oneOf
  | .object [("Variable", id)] => id.uint64?.map var
  | .object [("DependentlyNull", payload)] =>
    match _hfields : Fields.ofNode? ["if_null", "then_null"] payload with
    | none => none
    | some fields =>
      match _hinput : fields.get? "if_null", _hresult : fields.get? "then_null" with
      | some input, some result =>
        match ofJson? input, ofJson? result with
        | some input, some result => some (cast input result)
        | _, _ => none
      | _, _ => none
  | _ => none
termination_by sizeOf json
decreasing_by
  · have := Fields.sizeOf_get?_lt _hfields _hinput
    simp only [Json.object.sizeOf_spec, List.cons.sizeOf_spec, Prod.mk.sizeOf_spec]
    omega
  · have := Fields.sizeOf_get?_lt _hfields _hresult
    simp only [Json.object.sizeOf_spec, List.cons.sizeOf_spec, Prod.mk.sizeOf_spec]
    omega

end InferredType

end QueryTyping
