import QueryTyping.Proofs.Catalog.Building
import QueryTyping.Proofs.Encoding.Catalogs
import QueryTyping.Proofs.Json.Texts

/-!
# Loading a catalog a second time

A catalog that was loaded has its names filled in, and filling them in again changes nothing
(`Catalog.fillNames_fillNames`): a name that is there stays, and one that is still empty stands for
a thing that is stored under the empty name. A catalog that was built has all its names from the
beginning (`Catalog.Consistent.fillNames_eq`).

So either kind of catalog, if it is valid, is loaded as itself from the text that is written of it
(`Catalog.reload_eq_self`). Writing and reading keep every part of it, and what loading does to the
parts has been done already.
-/

namespace QueryTyping

/-! ## Dictionaries -/

namespace Dictionary

variable {α β : Type} {d : Dictionary α}

theorem mapEntries_eq_self {f : String → α → α}
    (h : d.All fun name value => f name value = value) : d.mapEntries f = d := by
  apply eq_of_entries
  calc d.entries.map (fun entry => (entry.1, f entry.1 entry.2))
      = d.entries.map id := List.map_congr_left fun entry hentry =>
        Prod.ext rfl (h entry.1 entry.2 (get?_of_mem_entries hentry))
    _ = d.entries := List.map_id _

theorem all_mapEntries {f : String → α → β} {P : String → β → Prop}
    (h : ∀ name value, P name (f name value)) : (d.mapEntries f).All P := by
  intro name value hvalue
  rw [get?_mapEntries] at hvalue
  obtain ⟨old, -, rfl⟩ := Option.map_eq_some_iff.mp hvalue
  exact h name old

end Dictionary

/-! ## Filling in names twice -/

@[simp] theorem fillName_self (name : String) : fillName name name = name := by
  unfold fillName
  split <;> rfl

@[simp] theorem fillName_fillName (name stored : String) :
    fillName (fillName name stored) stored = fillName name stored := by
  by_cases hname : name.isEmpty
  · simp [fillName, hname]
  · simp [fillName, hname]

theorem Column.fillNames_fillNames (table : String) (column : Column) :
    (column.fillNames table).fillNames table = column.fillNames table := by
  simp [Column.fillNames]

theorem Table.fillNames_fillNames (stored : String) (table : Table) :
    (table.fillNames stored).fillNames stored = table.fillNames stored := by
  simp [Table.fillNames, Column.fillNames_fillNames, Function.comp_def]

theorem View.fillNames_fillNames (stored : String) (view : View) :
    (view.fillNames stored).fillNames stored = view.fillNames stored := by
  simp [View.fillNames]

theorem Schema.fillNames_fillNames (stored : String) (schema : Schema) :
    (schema.fillNames stored).fillNames stored = schema.fillNames stored := by
  have htables := Dictionary.mapEntries_eq_self
    (Dictionary.all_mapEntries (d := schema.tables) Table.fillNames_fillNames)
  have hviews := Dictionary.mapEntries_eq_self
    (Dictionary.all_mapEntries (d := schema.views) View.fillNames_fillNames)
  simp only [Schema.fillNames, fillName_fillName, htables, hviews]

theorem Catalog.fillNames_fillNames (catalog : Catalog) :
    catalog.fillNames.fillNames = catalog.fillNames := by
  have hschemas := Dictionary.mapEntries_eq_self
    (Dictionary.all_mapEntries (d := catalog.schemas) Schema.fillNames_fillNames)
  simp only [Catalog.fillNames, hschemas]

/-! ## Names that agree from the beginning -/

theorem Table.Keyed.fillNames_eq {stored : String} {table : Table} (h : table.Keyed stored) :
    table.fillNames stored = table := by
  have hcolumn : ∀ column ∈ table.columns, column.fillNames stored = id column := by
    intro column hcolumn
    rw [Column.fillNames, h.columns column hcolumn, fillName_self, ← h.columns column hcolumn]
    rfl
  have hcolumns : table.columns.map (Column.fillNames stored) = table.columns :=
    (List.map_congr_left hcolumn).trans (List.map_id _)
  simp only [Table.fillNames, h.name, fillName_self, hcolumns]
  rw [← h.name]

theorem View.Keyed.fillNames_eq {stored : String} {view : View} (h : view.Keyed stored) :
    view.fillNames stored = view := by
  rw [View.fillNames, h.name, fillName_self, ← h.name]

theorem Schema.Keyed.fillNames_eq {stored : String} {schema : Schema} (h : schema.Keyed stored) :
    schema.fillNames stored = schema := by
  have htables := Dictionary.mapEntries_eq_self fun name table htable =>
    (h.tables name table htable).fillNames_eq
  have hviews := Dictionary.mapEntries_eq_self fun name view hview =>
    (h.views name view hview).fillNames_eq
  rw [Schema.fillNames, htables, hviews, h.name, fillName_self, ← h.name]

theorem Catalog.Consistent.fillNames_eq {catalog : Catalog} (h : catalog.Consistent) :
    catalog.fillNames = catalog := by
  have hschemas := Dictionary.mapEntries_eq_self fun name schema hschema =>
    (h.schemas name schema hschema).fillNames_eq
  rw [Catalog.fillNames, hschemas]

/-! ## The form in which a catalog is written -/

section Form

open Json (Plain)

variable {depth : Nat}

theorem ObjectName.plain_toJson (name : ObjectName) : name.toJson.Plain (depth + 1) := by
  obtain ⟨_ | schema, object⟩ := name
  · exact .object (by simp [Json.ofOption, Plain.null, Plain.string])
  · exact .object (by simp [Json.ofOption, Plain.string])

theorem ColumnType.plain_toJson (ty : ColumnType) : ty.toJson.Plain (depth + 1) :=
  .object (by simp [CoreType.toJson, Plain.bool, Plain.string])

theorem Json.plain_array {α : Type} {write : α → Json} {values : List α}
    (h : ∀ value, (write value).Plain depth) : (Json.array (values.map write)).Plain (depth + 1) :=
  .array fun item hitem => by
    obtain ⟨value, -, rfl⟩ := List.mem_map.mp hitem
    exact h value

theorem Json.plain_ofDictionary {α : Type} {write : α → Json} {d : Dictionary α}
    (h : ∀ value, (write value).Plain depth) : (Json.ofDictionary write d).Plain (depth + 1) :=
  .object fun member hmember => by
    obtain ⟨entry, -, rfl⟩ := List.mem_map.mp hmember
    exact h entry.2

theorem Column.plain_toJson (column : Column) : column.toJson.Plain (depth + 2) :=
  .object (by simp [ColumnType.plain_toJson, Plain.bool, Plain.string])

theorem Table.plain_toJson (table : Table) : table.toJson.Plain (depth + 4) :=
  .object (by simp [Json.plain_array Column.plain_toJson, Plain.string])

theorem ViewColumn.plain_toJson (column : ViewColumn) : column.toJson.Plain (depth + 2) :=
  .object (by simp [ColumnType.plain_toJson, Plain.string])

theorem View.plain_toJson (view : View) : view.toJson.Plain (depth + 4) :=
  .object (by simp [Json.plain_array ViewColumn.plain_toJson,
    Json.plain_array ObjectName.plain_toJson, Plain.string])

theorem Schema.plain_toJson (schema : Schema) : schema.toJson.Plain (depth + 6) :=
  .object (by simp [Json.plain_ofDictionary Table.plain_toJson,
    Json.plain_ofDictionary View.plain_toJson, Plain.string])

/-- A catalog is written without numbers, eight containers deep. -/
theorem Catalog.plain_toJson (catalog : Catalog) : catalog.toJson.Plain 8 :=
  .object (by simp [Json.plain_ofDictionary Schema.plain_toJson, Plain.string])

end Form

/-! ## Loading again -/

namespace Catalog

variable {catalog : Catalog}

/-- A valid catalog that has its names is completed as it is. -/
theorem complete_eq_self (hnames : catalog.fillNames = catalog)
    (hvalid : catalog.validate = .ok ()) : complete (some catalog) = .ok catalog := by
  unfold complete
  simp only [hnames, hvalid]
  rfl

/-- The catalog was loaded from a text of JSON or YAML, or it was built and is valid. -/
inductive Finished (catalog : Catalog) : Prop where
  | json {text : String} (h : ofJsonText text = .ok catalog)
  | yaml {text : String} (h : ofYamlText text = .ok catalog)
  | built (h : catalog.Built) (hvalid : catalog.validate = .ok ())

theorem Finished.fillNames_eq (h : catalog.Finished) : catalog.fillNames = catalog := by
  have hloaded : ∀ read, complete read = .ok catalog → catalog.fillNames = catalog := by
    intro read hread
    obtain ⟨definition, -, rfl, -⟩ := exists_of_complete hread
    exact definition.fillNames_fillNames
  cases h with
  | json h => exact hloaded _ h
  | yaml h => exact hloaded _ h
  | built h _ => exact h.consistent.fillNames_eq

theorem Finished.validate (h : catalog.Finished) : catalog.validate = .ok () := by
  cases h with
  | json h => exact validate_of_complete h
  | yaml h => exact validate_of_complete h
  | built _ hvalid => exact hvalid

/-- Filling in names a second time changes nothing in any catalog. A catalog that was loaded, or was
built and is valid, has its names and stays valid; it is loaded again as itself, from its JSON form
and from the text of this form. -/
theorem reload_eq_self :
    (∀ definition : Catalog, definition.fillNames.fillNames = definition.fillNames) ∧
    ∀ catalog : Catalog, catalog.Finished →
      catalog.fillNames = catalog ∧ catalog.fillNames.validate = .ok () ∧
      ofJson catalog.toJson = .ok catalog ∧ ofJsonText catalog.toJsonText = .ok catalog := by
  refine ⟨fillNames_fillNames, ?_⟩
  intro catalog h
  have hnames := h.fillNames_eq
  have hcomplete := complete_eq_self hnames h.validate
  refine ⟨hnames, hnames.symm ▸ h.validate, ?_, ?_⟩
  · rw [ofJson, ofNode?_toJson, hcomplete]
  · have hparse := Json.parse?_render catalog.plain_toJson (by decide)
    rw [ofJsonText, toJsonText, hparse, Option.bind_some, ofNode?_toJson, hcomplete]

/-- A definition with a schema and a table under the empty name, and a table that records another
name than its own but leaves out that of its column. The catalog is loaded as itself from its JSON
form, whether or not this passes through a text. -/
theorem reload_eq_self_of_partial_names :
    let definition : Json := .object [
      ("default_schema", .string ""),
      ("schemas", .object [
        ("", .object [
          ("tables", .object [
            ("", .object []),
            ("t", .object [
              ("table_name", .string "u"),
              ("columns", .array [.object [
                ("column_name", .string "c"), ("column_type", ColumnType.unknown.toJson)]])])])])])]
    let table : Table :=
      { name := "u", columns := [{ table := "u", name := "c", type := .unknown }] }
    let catalog : Catalog :=
      { defaultSchema := ""
        schemas := .ofList [("", { tables := .ofList [("", {}), ("t", table)] })] }
    ofJson definition = .ok catalog ∧ ofJsonText definition.render = .ok catalog ∧
      ofJson catalog.toJson = .ok catalog ∧ ofJsonText catalog.toJsonText = .ok catalog := by
  intro definition table catalog
  have hvalue : ofJson definition = .ok catalog := by decide +kernel
  have hloaded : ofJsonText definition.render = .ok catalog := by decide +kernel
  obtain ⟨-, -, hreloaded⟩ := reload_eq_self.2 catalog (.json hloaded)
  exact ⟨hvalue, hloaded, hreloaded⟩

end Catalog

end QueryTyping
