import QueryTyping.Encoding.Queries
import QueryTyping.Proofs.Encoding.Catalogs

/-!
# Queries are read as they are written

What stands in a query or is found out about one is read from its JSON form as it was: names,
places, literals, types, queries and settings. Numbers come back because they are written in full
and fit where they are read (`Json.natBelow?_ofNat`), and a value that may be absent because the
forms of the others are not null (`Fields.optional_ofOption`). A cast holds two types, so types are
taken by induction (`InferredType.ofJson?_toJson`). Only floating-point literals do not come back:
they are written as texts and read from numbers.
-/

namespace QueryTyping

variable {α : Type}

/-! ## Texts, numbers and fields -/

namespace Json

theorem string?_string (text : String) : (string text).string? = some text := rfl

theorem natBelow?_ofNat {limit n : Nat} (h : n < limit) :
    (ofNat n).natBelow? limit = some n := by
  simp [ofNat, ofInt, natBelow?, int?, h]

@[simp] theorem uint8?_ofNat (n : UInt8) : (ofNat n.toNat).uint8? = some n := by
  rw [uint8?, natBelow?_ofNat n.toNat_lt]
  simp

@[simp] theorem uint32?_ofNat (n : UInt32) : (ofNat n.toNat).uint32? = some n := by
  rw [uint32?, natBelow?_ofNat n.toNat_lt]
  simp

@[simp] theorem uint64?_ofNat (n : UInt64) : (ofNat n.toNat).uint64? = some n := by
  rw [uint64?, natBelow?_ofNat n.toNat_lt]
  simp

@[simp] theorem int64?_ofInt (n : Int64) : (ofInt n.toInt).int64? = some n := by
  have hfits := And.intro n.minValue_le_toInt n.toInt_le
  unfold int64?
  show (some n.toInt).bind _ = _
  rw [Option.bind_some, if_pos hfits]
  simp

end Json

/-- A value that may be absent is read as it was, if the form of a value is never null. -/
theorem Fields.optional_ofOption {fields : Fields Json} {name : String} {read : Json → Option α}
    {write : α → Json} {value : Option α} (hfield : fields.get? name = some (.ofOption write value))
    (hpresent : ∀ value, DataNode.absent? (write value) = some false)
    (hread : ∀ value, read (write value) = some value) :
    fields.optional name read = some value := by
  unfold Fields.optional
  rw [hfield]
  cases value with
  | none => rfl
  | some value => simp [Json.ofOption, hpresent, hread]

/-! ## Names and places -/

@[simp] theorem ColumnName.ofJson?_toJson (name : ColumnName) :
    ColumnName.ofJson? name.toJson = some name := by
  unfold ColumnName.ofJson? ColumnName.toJson
  rw [Fields.ofNode?_object (by rfl) (by decide)]
  simp only [Option.bind_eq_bind, Option.bind_some]
  rw [Fields.optional_ofOption rfl (fun _ => rfl) ObjectName.ofNode?_toJson]
  rfl

@[simp] theorem Parameter.ofJson?_toJson (parameter : Parameter) :
    Parameter.ofJson? parameter.toJson = some parameter := by
  cases parameter with
  | positional index => simp [toJson, ofJson?]
  | named name => rfl

@[simp] theorem TypeName.ofJson?_toJson (name : TypeName) :
    TypeName.ofJson? name.toJson = some name := by
  have htokens : DataNode.list? Json.string? (Json.ofStrings name.tokens) = some name.tokens :=
    DataNode.list?_array Json.string?_string name.tokens
  unfold TypeName.ofJson? TypeName.toJson
  rw [Fields.ofNode?_object (by rfl) (by decide)]
  simp [Fields.required, Fields.get?, htokens]

-- A span and the settings are read from any forms of their numbers: the bounds of the numbers are
-- too large to compute with.
theorem Span.ofJson?_object {first second : Json} {start stop : UInt64}
    (hstart : first.uint64? = some start) (hstop : second.uint64? = some stop) :
    Span.ofJson? (.object [("start", first), ("end", second)]) = some ⟨start, stop⟩ := by
  unfold Span.ofJson?
  rw [Fields.ofNode?_object (by rfl) (by decide)]
  simp [Fields.required, Fields.get?, List.lookup_cons, hstart, hstop]

@[simp] theorem Span.ofJson?_toJson (span : Span) : Span.ofJson? span.toJson = some span :=
  Span.ofJson?_object (Json.uint64?_ofNat span.start) (Json.uint64?_ofNat span.stop)

/-! ## Literals and types -/

theorem Literal.ofJson?_toJson {literal : Literal} (h : ∀ value, literal ≠ .float value) :
    Literal.ofJson? literal.toJson = some literal := by
  cases literal with
  | null => rfl
  | currentTime => rfl
  | currentDate => rfl
  | currentTimestamp => rfl
  | string text => rfl
  | blob bytes => simp [toJson, ofJson?, DataNode.list?_array Json.uint8?_ofNat]
  | integer value => simp [toJson, ofJson?, numericToJson, numericOfJson?, ofNumeric]
  | float value => exact (h value rfl).elim

namespace InferredType

/-- A cast is read from its two parts. -/
theorem ofJson?_cast {payload input result : Json} {fields : Fields Json} {l r : InferredType}
    (hfields : Fields.ofNode? ["if_null", "then_null"] payload = some fields)
    (hinput : fields.get? "if_null" = some input) (hresult : fields.get? "then_null" = some result)
    (hl : ofJson? input = some l) (hr : ofJson? result = some r) :
    ofJson? (.object [("DependentlyNull", payload)]) = some (cast l r) := by
  rw [ofJson?]
  -- each match remembers what it found, so the fields are identified one after the other
  split
  · next h => cases hfields.symm.trans h
  · next found h =>
    obtain rfl : found = fields := Option.some.inj (h.symm.trans hfields)
    split
    · next first second hfirst hsecond =>
      obtain rfl : first = input := Option.some.inj (hfirst.symm.trans hinput)
      obtain rfl : second = result := Option.some.inj (hsecond.symm.trans hresult)
      rw [hl, hr]
    · next hmissing => exact (hmissing input result hinput hresult).elim

@[simp] theorem ofJson?_toJson (ty : InferredType) : ofJson? ty.toJson = some ty := by
  induction ty with
  | column ty => simp [toJson, ofJson?]
  | oneOf alternatives =>
    simp [toJson, ofJson?, DataNode.list?_array ColumnType.ofNode?_toJson]
  | cast input result hinput hresult =>
    exact ofJson?_cast (Fields.ofNode?_object rfl (by decide)) rfl rfl hinput hresult
  | var id => simp [toJson, ofJson?]

end InferredType

/-! ## Queries and settings -/

@[simp] theorem QueryColumn.ofJson?_toJson (column : QueryColumn) :
    QueryColumn.ofJson? column.toJson = some column := by
  unfold QueryColumn.ofJson? QueryColumn.toJson
  rw [Fields.ofNode?_object (by rfl) (by decide)]
  simp only [Option.bind_eq_bind, Option.bind_some]
  rw [Fields.optional_ofOption rfl (fun _ => rfl) Json.string?_string]
  simp [Fields.required, Fields.get?, List.lookup_cons, Json.string?, Json.bool?]

@[simp] theorem Query.ofJson?_toJson (query : Query) : Query.ofJson? query.toJson = some query := by
  unfold Query.ofJson? Query.toJson Query.columnsToJson
  rw [Fields.ofNode?_object (by rfl) (by decide)]
  simp [Fields.required, Fields.get?, DataNode.list?_array QueryColumn.ofJson?_toJson]

@[simp] theorem FromClause.ofJson?_toJson (clause : FromClause) :
    FromClause.ofJson? clause.toJson = some clause := by
  unfold FromClause.ofJson? FromClause.toJson
  rw [Fields.ofNode?_object (by rfl) (by decide)]
  simp [Fields.required, Fields.get?, List.lookup_cons,
    DataNode.dictionary?_ofDictionary Query.ofJson?_toJson]

theorem SuggestionConfig.ofJson?_object {distance suggestions : Json} {enabled : Bool}
    {maxDistance maxSuggestions : UInt64} (hdistance : distance.uint64? = some maxDistance)
    (hsuggestions : suggestions.uint64? = some maxSuggestions) :
    SuggestionConfig.ofJson? (.object [("suggestions", .bool enabled), ("max_distance", distance),
      ("max_suggestions", suggestions)]) = some ⟨enabled, maxDistance, maxSuggestions⟩ := by
  unfold SuggestionConfig.ofJson?
  rw [Fields.ofNode?_object (by rfl) (by decide)]
  simp [Fields.withDefault, Fields.get?, List.lookup_cons, Json.bool?, hdistance, hsuggestions]

@[simp] theorem SuggestionConfig.ofJson?_toJson (config : SuggestionConfig) :
    SuggestionConfig.ofJson? config.toJson = some config :=
  SuggestionConfig.ofJson?_object (Json.uint64?_ofNat config.maxDistance)
    (Json.uint64?_ofNat config.maxSuggestions)

end QueryTyping
