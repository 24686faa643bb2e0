import QueryTyping.Encoding.Types
import QueryTyping.FromClause
import QueryTyping.Suggestion

/-!
# Queries and settings as JSON

A setting for suggestions that is missing has its usual value.
-/

namespace QueryTyping

namespace QueryColumn

/-- A column of a query as JSON. -/
def toJson (column : QueryColumn) : Json :=
  .object [("from_alias", .ofOption .string column.source), ("column_name", .string column.name),
    ("inferred_type", column.type.toJson), ("primary_key", .bool column.primaryKey)]

/-- Reads a column of a query. -/
def ofJson? (json : Json) : Option QueryColumn := do
  let fields ← Fields.ofNode? ["from_alias", "column_name", "inferred_type", "primary_key"] json
  return {
    source := ← fields.optional "from_alias" Json.string?
    name := ← fields.required "column_name" Json.string?
    type := ← fields.required "inferred_type" InferredType.ofJson?
    primaryKey := ← fields.required "primary_key" Json.bool? }

end QueryColumn

namespace Query

/-- The columns of a query as JSON. -/
def columnsToJson (query : Query) : Json := .array (query.columns.map QueryColumn.toJson)

/-- A query as JSON. -/
def toJson (query : Query) : Json := .object [("columns", query.columnsToJson)]

/-- Reads a query. -/
def ofJson? (json : Json) : Option Query := do
  let fields ← Fields.ofNode? ["columns"] json
  return ⟨← fields.required "columns" (DataNode.list? QueryColumn.ofJson?)⟩

end Query

namespace FromClause

/-- A FROM clause as JSON. -/
def toJson (clause : FromClause) : Json :=
  .object [("from_variables", .ofDictionary Query.toJson clause.sources),
    ("wildcard", clause.wildcard.toJson)]

/-- Reads a FROM clause. -/
def ofJson? (json : Json) : Option FromClause := do
  let fields ← Fields.ofNode? ["from_variables", "wildcard"] json
  return {
    sources := ← fields.required "from_variables" (DataNode.dictionary? Query.ofJson?)
    wildcard := ← fields.required "wildcard" Query.ofJson? }

end FromClause

namespace SuggestionConfig

/-- Settings for suggestions as JSON. -/
def toJson (config : SuggestionConfig) : Json :=
  .object [("suggestions", .bool config.enabled),
    ("max_distance", .ofNat config.maxDistance.toNat),
    ("max_suggestions", .ofNat config.maxSuggestions.toNat)]

/-- Reads settings for suggestions. -/
def ofJson? (json : Json) : Option SuggestionConfig := do
  let usual : SuggestionConfig := {}
  let fields ← Fields.ofNode? ["suggestions", "max_distance", "max_suggestions"] json
  return {
    enabled := ← fields.withDefault "suggestions" usual.enabled Json.bool?
    maxDistance := ← fields.withDefault "max_distance" usual.maxDistance Json.uint64?
    maxSuggestions := ← fields.withDefault "max_suggestions" usual.maxSuggestions Json.uint64? }

end SuggestionConfig

end QueryTyping
