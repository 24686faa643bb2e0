import QueryTyping.Proofs.Encoding.Queries

/-!
# The form in which values are written

What values look like in JSON is said once for all kinds of values: a table tells the form of each
kind (`DataKind.form`), and `Written` tells how a form is filled in. Every field of a record is
written, in order and under its name. What is absent is written as null. A variant without data is
written as its name, any other as an object whose only member is named for it.

All values are written in the form of their kind, and read as the same values
(`DataKind.written_encode`, `DataKind.decode?_encode`). So whatever was accepted, with fields left
out or in another order, has a full form that stands for the same value.
-/

namespace QueryTyping

/-- The kinds of values that are written. -/
inductive DataKind where
  | objectName
  | columnName
  | parameter
  | typeName
  | span
  | coreType
  | columnType
  | inferredType
  | queryColumn
  | query
  | fromClause
  | suggestionConfig
  | column
  | table
  | viewColumn
  | view
  | schema
  | catalog

/-- What is to be written for a value. -/
inductive Form where
  | text
  | flag
  /-- A whole number from `least` up to but without `limit`. -/
  | number (least limit : Int)
  /-- Something that may be absent. -/
  | optional (form : Form)
  | list (form : Form)
  /-- A value for each of some names. -/
  | map (form : Form)
  | record (fields : List (String × Form))
  /-- One of some variants: those that are only a name, and those with data. -/
  | variants (names : List String) (payloads : List (String × Form))
  /-- The form of another kind. -/
  | kind (kind : DataKind)

namespace DataKind

/-- The values of a kind. -/
def Value : DataKind → Type
  | objectName => ObjectName
  | columnName => ColumnName
  | parameter => Parameter
  | typeName => TypeName
  | span => Span
  | coreType => CoreType
  | columnType => ColumnType
  | inferredType => InferredType
  | queryColumn => QueryColumn
  | query => Query
  | fromClause => FromClause
  | suggestionConfig => SuggestionConfig
  | column => Column
  | table => Table
  | viewColumn => ViewColumn
  | view => View
  | schema => Schema
  | catalog => Catalog

/-- A value as JSON. -/
def encode : (kind : DataKind) → kind.Value → Json
  | objectName => ObjectName.toJson
  | columnName => ColumnName.toJson
  | parameter => Parameter.toJson
  | typeName => TypeName.toJson
  | span => Span.toJson
  | coreType => CoreType.toJson
  | columnType => ColumnType.toJson
  | inferredType => InferredType.toJson
  | queryColumn => QueryColumn.toJson
  | query => Query.toJson
  | fromClause => FromClause.toJson
  | suggestionConfig => SuggestionConfig.toJson
  | column => Column.toJson
  | table => Table.toJson
  | viewColumn => ViewColumn.toJson
  | view => View.toJson
  | schema => Schema.toJson
  | catalog => Catalog.toJson

/-- Reads a value. -/
def decode? : (kind : DataKind) → Json → Option kind.Value
  | objectName => ObjectName.ofNode?
  | columnName => ColumnName.ofJson?
  | parameter => Parameter.ofJson?
  | typeName => TypeName.ofJson?
  | span => Span.ofJson?
  | coreType => CoreType.ofNode?
  | columnType => ColumnType.ofNode?
  | inferredType => InferredType.ofJson?
  | queryColumn => QueryColumn.ofJson?
  | query => Query.ofJson?
  | fromClause => FromClause.ofJson?
  | suggestionConfig => SuggestionConfig.ofJson?
  | column => Column.ofNode?
  | table => Table.ofNode?
  | viewColumn => ViewColumn.ofNode?
  | view => View.ofNode?
  | schema => Schema.ofNode?
  | catalog => Catalog.ofNode?

/-- The form of each kind. -/
def form : DataKind → Form
  | objectName => .record [("schema_name", .optional .text), ("object_name", .text)]
  | columnName => .record [("table", .optional (.kind objectName)), ("column_name", .text)]
  | parameter => .variants [] [("Positional", .number 0 UInt32.size), ("Named", .text)]
  | typeName => .record [("tokens", .list .text)]
  | span => .record [("start", .number 0 UInt64.size), ("end", .number 0 UInt64.size)]
  | coreType => .variants ["Integer", "Float", "String", "Blob", "Boolean", "Any"] []
  | columnType => .record [("nullable", .flag), ("type", .kind coreType)]
  | inferredType =>
    .variants [] [("Concrete", .kind columnType), ("OneOf", .list (.kind columnType)),
      ("DependentlyNull",
        .record [("if_null", .kind inferredType), ("then_null", .kind inferredType)]),
      ("Variable", .number 0 UInt64.size)]
  | queryColumn =>
    .record [("from_alias", .optional .text), ("column_name", .text),
      ("inferred_type", .kind inferredType), ("primary_key", .flag)]
  | query => .record [("columns", .list (.kind queryColumn))]
  | fromClause => .record [("from_variables", .map (.kind query)), ("wildcard", .kind query)]
  | suggestionConfig =>
    .record [("suggestions", .flag), ("max_distance", .number 0 UInt64.size),
      ("max_suggestions", .number 0 UInt64.size)]
  | column =>
    .record [("table_name", .text), ("column_name", .text), ("column_type", .kind columnType),
      ("primary_key", .flag)]
  | table => .record [("table_name", .text), ("columns", .list (.kind column))]
  | viewColumn => .record [("column_name", .text), ("column_type", .kind columnType)]
  | view =>
    .record [("view_name", .text), ("columns", .list (.kind viewColumn)),
      ("references", .list (.kind objectName))]
  | schema =>
    .record [("schema_name", .text), ("tables", .map (.kind table)), ("views", .map (.kind view))]
  | catalog => .record [("default_schema", .text), ("schemas", .map (.kind schema))]

end DataKind

/-- The form of a literal that is not a floating-point number. -/
def Literal.form : Form :=
  .variants ["Null", "CurrentTime", "CurrentDate", "CurrentTimestamp"]
    [("String", .text), ("Blob", .list (.number 0 UInt8.size)),
      ("Numeric", .variants []
        [("Integer", .number Int64.minValue.toInt (Int64.maxValue.toInt + 1))])]

mutual

/-- A form is filled in. -/
inductive Written : Form → Json → Prop where
  | text (text : String) : Written .text (.string text)
  | flag (flag : Bool) : Written .flag (.bool flag)
  | number {least limit value : Int} :
    least ≤ value → value < limit → Written (.number least limit) (.ofInt value)
  | absent {form : Form} : Written (.optional form) .null
  | present {form : Form} {json : Json} : Written form json → Written (.optional form) json
  | list {form : Form} {items : List Json} :
    (∀ item ∈ items, Written form item) → Written (.list form) (.array items)
  /-- The names ascend, so that none stands twice. -/
  | map {form : Form} {entries : List (String × Json)} :
    (entries.Pairwise fun a b => a.1 < b.1) → (∀ entry ∈ entries, Written form entry.2) →
      Written (.map form) (.object entries)
  | record {fields : List (String × Form)} {members : List (String × Json)} :
    WrittenFields fields members → Written (.record fields) (.object members)
  | name {names : List String} {payloads : List (String × Form)} {name : String} :
    name ∈ names → Written (.variants names payloads) (.string name)
  | payload {names : List String} {payloads : List (String × Form)} {name : String} {form : Form}
    {json : Json} : (name, form) ∈ payloads → Written form json →
      Written (.variants names payloads) (.object [(name, json)])
  | kind {kind : DataKind} {json : Json} : Written kind.form json → Written (.kind kind) json

/-- All fields are written, in order. -/
inductive WrittenFields : List (String × Form) → List (String × Json) → Prop where
  | nil : WrittenFields [] []
  | cons {name : String} {form : Form} {json : Json} {fields : List (String × Form)}
    {members : List (String × Json)} : Written form json → WrittenFields fields members →
      WrittenFields ((name, form) :: fields) ((name, json) :: members)

end

namespace Written

variable {α : Type} {form : Form} {write : α → Json}

theorem ofNat {n limit : Nat} (h : n < limit) : Written (.number 0 limit) (.ofNat n) :=
  .number (Int.natCast_nonneg n) (Int.ofNat_lt.mpr h)

theorem ofOption (h : ∀ value, Written form (write value)) (value : Option α) :
    Written (.optional form) (.ofOption write value) := by
  cases value with
  | none => exact .absent
  | some value => exact .present (h value)

theorem ofList (h : ∀ value, Written form (write value)) (values : List α) :
    Written (.list form) (.array (values.map write)) := by
  refine .list fun item hitem => ?_
  obtain ⟨value, -, rfl⟩ := List.mem_map.mp hitem
  exact h value

theorem ofDictionary (h : ∀ value, Written form (write value)) (d : Dictionary α) :
    Written (.map form) (.ofDictionary write d) := by
  refine .map (List.pairwise_map.mpr d.ordered) fun entry hentry => ?_
  obtain ⟨old, -, rfl⟩ := List.mem_map.mp hentry
  exact h old.2

end Written

/-! ## The forms of values -/

open Written (ofNat ofOption ofList ofDictionary)

theorem ObjectName.written_toJson (name : ObjectName) :
    Written (.kind .objectName) name.toJson :=
  .kind (.record (.cons (ofOption .text name.schema) (.cons (.text name.object) .nil)))

theorem ColumnName.written_toJson (name : ColumnName) :
    Written (.kind .columnName) name.toJson :=
  .kind (.record (.cons (ofOption ObjectName.written_toJson name.table)
    (.cons (.text name.column) .nil)))

theorem Parameter.written_toJson (parameter : Parameter) :
    Written (.kind .parameter) parameter.toJson := by
  cases parameter with
  | positional index => exact .kind (.payload (.head _) (ofNat index.toNat_lt))
  | named name => exact .kind (.payload (.tail _ (.head _)) (.text name))

theorem TypeName.written_toJson (name : TypeName) : Written (.kind .typeName) name.toJson :=
  .kind (.record (.cons (ofList .text name.tokens) .nil))

theorem Span.written_toJson (span : Span) : Written (.kind .span) span.toJson :=
  .kind (.record (.cons (ofNat span.start.toNat_lt) (.cons (ofNat span.stop.toNat_lt) .nil)))

theorem CoreType.written_toJson (core : CoreType) : Written (.kind .coreType) core.toJson := by
  refine .kind (.name ?_)
  cases core <;> decide

theorem ColumnType.written_toJson (ty : ColumnType) : Written (.kind .columnType) ty.toJson :=
  .kind (.record (.cons (.flag ty.nullable) (.cons ty.core.written_toJson .nil)))

theorem InferredType.written_toJson (ty : InferredType) :
    Written (.kind .inferredType) ty.toJson := by
  refine .kind ?_
  induction ty with
  | column ty => exact .payload (.head _) ty.written_toJson
  | oneOf alternatives =>
    exact .payload (.tail _ (.head _)) (ofList ColumnType.written_toJson alternatives)
  | cast input result hinput hresult =>
    exact .payload (.tail _ (.tail _ (.head _)))
      (.record (.cons (.kind hinput) (.cons (.kind hresult) .nil)))
  | var id => exact .payload (.tail _ (.tail _ (.tail _ (.head _)))) (ofNat id.toNat_lt)

theorem Literal.written_toJson {literal : Literal} (h : ∀ value, literal ≠ .float value) :
    Written Literal.form literal.toJson := by
  cases literal with
  | null => exact .name (by decide)
  | currentTime => exact .name (by decide)
  | currentDate => exact .name (by decide)
  | currentTimestamp => exact .name (by decide)
  | string text => exact .payload (.head _) (.text text)
  | blob bytes =>
    exact .payload (.tail _ (.head _)) (ofList (fun byte => ofNat byte.toNat_lt) bytes)
  | integer value =>
    exact .payload (.tail _ (.tail _ (.head _)))
      (.payload (.head _) (.number value.minValue_le_toInt (Int.lt_add_one_of_le value.toInt_le)))
  | float value => exact (h value rfl).elim

theorem QueryColumn.written_toJson (column : QueryColumn) :
    Written (.kind .queryColumn) column.toJson :=
  .kind (.record (.cons (ofOption .text column.source) (.cons (.text column.name)
    (.cons column.type.written_toJson (.cons (.flag column.primaryKey) .nil)))))

theorem Query.written_toJson (query : Query) : Written (.kind .query) query.toJson :=
  .kind (.record (.cons (ofList QueryColumn.written_toJson query.columns) .nil))

theorem FromClause.written_toJson (clause : FromClause) :
    Written (.kind .fromClause) clause.toJson :=
  .kind (.record (.cons (ofDictionary Query.written_toJson clause.sources)
    (.cons clause.wildcard.written_toJson .nil)))

theorem SuggestionConfig.written_toJson (config : SuggestionConfig) :
    Written (.kind .suggestionConfig) config.toJson :=
  .kind (.record (.cons (.flag config.enabled) (.cons (ofNat config.maxDistance.toNat_lt)
    (.cons (ofNat config.maxSuggestions.toNat_lt) .nil))))

theorem Column.written_toJson (column : Column) : Written (.kind .column) column.toJson :=
  .kind (.record (.cons (.text column.table) (.cons (.text column.name)
    (.cons column.type.written_toJson (.cons (.flag column.primaryKey) .nil)))))

theorem Table.written_toJson (table : Table) : Written (.kind .table) table.toJson :=
  .kind (.record (.cons (.text table.name)
    (.cons (ofList Column.written_toJson table.columns) .nil)))

theorem ViewColumn.written_toJson (column : ViewColumn) :
    Written (.kind .viewColumn) column.toJson :=
  .kind (.record (.cons (.text column.name) (.cons column.type.written_toJson .nil)))

theorem View.written_toJson (view : View) : Written (.kind .view) view.toJson :=
  .kind (.record (.cons (.text view.name)
    (.cons (ofList ViewColumn.written_toJson view.columns)
      (.cons (ofList ObjectName.written_toJson view.references) .nil))))

theorem Schema.written_toJson (schema : Schema) : Written (.kind .schema) schema.toJson :=
  .kind (.record (.cons (.text schema.name)
    (.cons (ofDictionary Table.written_toJson schema.tables)
      (.cons (ofDictionary View.written_toJson schema.views) .nil))))

theorem Catalog.written_toJson (catalog : Catalog) : Written (.kind .catalog) catalog.toJson :=
  .kind (.record (.cons (.text catalog.defaultSchema)
    (.cons (ofDictionary Schema.written_toJson catalog.schemas) .nil)))

/-! ## All kinds -/

namespace DataKind

theorem written_encode (kind : DataKind) (value : kind.Value) :
    Written (.kind kind) (kind.encode value) := by
  cases kind with
  | objectName => exact ObjectName.written_toJson value
  | columnName => exact ColumnName.written_toJson value
  | parameter => exact Parameter.written_toJson value
  | typeName => exact TypeName.written_toJson value
  | span => exact Span.written_toJson value
  | coreType => exact CoreType.written_toJson value
  | columnType => exact ColumnType.written_toJson value
  | inferredType => exact InferredType.written_toJson value
  | queryColumn => exact QueryColumn.written_toJson value
  | query => exact Query.written_toJson value
  | fromClause => exact FromClause.written_toJson value
  | suggestionConfig => exact SuggestionConfig.written_toJson value
  | column => exact Column.written_toJson value
  | table => exact Table.written_toJson value
  | viewColumn => exact ViewColumn.written_toJson value
  | view => exact View.written_toJson value
  | schema => exact Schema.written_toJson value
  | catalog => exact Catalog.written_toJson value

theorem decode?_encode (kind : DataKind) (value : kind.Value) :
    kind.decode? (kind.encode value) = some value := by
  cases kind with
  | objectName => exact ObjectName.ofNode?_toJson value
  | columnName => exact ColumnName.ofJson?_toJson value
  | parameter => exact Parameter.ofJson?_toJson value
  | typeName => exact TypeName.ofJson?_toJson value
  | span => exact Span.ofJson?_toJson value
  | coreType => exact CoreType.ofNode?_toJson value
  | columnType => exact ColumnType.ofNode?_toJson value
  | inferredType => exact InferredType.ofJson?_toJson value
  | queryColumn => exact QueryColumn.ofJson?_toJson value
  | query => exact Query.ofJson?_toJson value
  | fromClause => exact FromClause.ofJson?_toJson value
  | suggestionConfig => exact SuggestionConfig.ofJson?_toJson value
  | column => exact Column.ofNode?_toJson value
  | table => exact Table.ofNode?_toJson value
  | viewColumn => exact ViewColumn.ofNode?_toJson value
  | view => exact View.ofNode?_toJson value
  | schema => exact Schema.ofNode?_toJson value
  | catalog => exact Catalog.ofNode?_toJson value

/-- What was read, whatever it was read from, is written in a form that is read as the same. -/
theorem decode?_encode_decode? (kind : DataKind) (json : Json) :
    ((kind.decode? json).map kind.encode).bind kind.decode? = kind.decode? json := by
  cases kind.decode? json with
  | none => rfl
  | some value => exact decode?_encode kind value

end DataKind

/-- Every value is written in the form of its kind and read as it was; so is every value that was
read, and every literal that is not a floating-point number. -/
theorem read_written_forms :
    (∀ (kind : DataKind) (value : kind.Value),
      Written kind.form (kind.encode value) ∧ kind.decode? (kind.encode value) = some value) ∧
    (∀ (kind : DataKind) (json : Json),
      ((kind.decode? json).map kind.encode).bind kind.decode? = kind.decode? json) ∧
    ∀ literal : Literal, (∃ value, literal = .float value) ∨
      Written Literal.form literal.toJson ∧ Literal.ofJson? literal.toJson = some literal := by
  refine ⟨fun kind value => ⟨?_, kind.decode?_encode value⟩, DataKind.decode?_encode_decode?, ?_⟩
  · cases kind.written_encode value with
    | kind h => exact h
  · intro literal
    by_cases hfloat : ∃ value, literal = .float value
    · exact Or.inl hfloat
    · have hnot : ∀ value, literal ≠ .float value := fun value h => hfloat ⟨value, h⟩
      exact Or.inr ⟨Literal.written_toJson hnot, Literal.ofJson?_toJson hnot⟩

end QueryTyping
