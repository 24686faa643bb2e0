import QueryTyping.Document
import QueryTyping.Name
import QueryTyping.Span
import QueryTyping.TypeName

/-!
# Names and places as JSON

Every field of a record is written, and the absence of a value is written as null. A parameter is
an object with one member, named for its kind.
-/

namespace QueryTyping

variable {ν : Type}

namespace ObjectName

/-- An object name as JSON. -/
def toJson (name : ObjectName) : Json :=
  .object [("schema_name", .ofOption .string name.schema), ("object_name", .string name.object)]

/-- Reads an object name. -/
def ofNode? [DataNode ν] (node : ν) : Option ObjectName := do
  let fields ← Fields.ofNode? ["schema_name", "object_name"] node
  return {
    schema := ← fields.optional "schema_name" DataNode.text?
    object := ← fields.required "object_name" DataNode.text? }

end ObjectName

namespace ColumnName

/-- A column name as JSON. -/
def toJson (name : ColumnName) : Json :=
  .object [("table", .ofOption ObjectName.toJson name.table), ("column_name", .string name.column)]

/-- Reads a column name. -/
def ofJson? (json : Json) : Option ColumnName := do
  let fields ← Fields.ofNode? ["table", "column_name"] json
  return {
    table := ← fields.optional "table" ObjectName.ofNode?
    column := ← fields.required "column_name" Json.string? }

end ColumnName

namespace Parameter

/-- A parameter as JSON. -/
def toJson : Parameter → Json
  | positional index => .object [("Positional", .ofNat index.toNat)]
  | named name => .object [("Named", .string name)]

/-- Reads a parameter. -/
def ofJson? : Json → Option Parameter
  | .object [("Positional", index)] => index.uint32?.map positional
  | .object [("Named", name)] => name.string?.map named
  | _ => none

end Parameter

namespace TypeName

/-- A declared type as JSON. -/
def toJson (name : TypeName) : Json := .object [("tokens", .ofStrings name.tokens)]

/-- Reads a declared type. -/
def ofJson? (json : Json) : Option TypeName := do
  let fields ← Fields.ofNode? ["tokens"] json
  return ⟨← fields.required "tokens" (DataNode.list? Json.string?)⟩

end TypeName

namespace Span

/-- A place as JSON. -/
def toJson (span : Span) : Json :=
  .object [("start", .ofNat span.start.toNat), ("end", .ofNat span.stop.toNat)]

/-- Reads a place. -/
def ofJson? (json : Json) : Option Span := do
  let fields ← Fields.ofNode? ["start", "end"] json
  return {
    start := ← fields.required "start" Json.uint64?
    stop := ← fields.required "end" Json.uint64? }

end Span

end QueryTyping
