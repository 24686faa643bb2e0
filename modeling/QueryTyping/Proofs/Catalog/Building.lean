import Mathlib.Control.Monad.Basic
import QueryTyping.Proofs.Catalog.References
import QueryTyping.Proofs.Catalog.Validity

/-!
# Catalogs that are built

Builders make tables, views and schemas and put them into one another, or into a catalog, under the
names that they record. Whatever the order, and also if a name is empty or comes back, the names
under which things are stored and the names that they record agree (`Catalog.Consistent`). A
builder that makes a thing starts from such names, and one that stores a thing chooses its own name
(`Dictionary.All.insert`).

In a consistent catalog the name that a schema records is the name under which look-ups find it. So
the check of the catalog looks for every reference where the walk of a view does
(`Catalog.Consistent.validate_eq_ok_iff_reads`).
-/

namespace QueryTyping

namespace Dictionary

variable {α : Type} {d : Dictionary α} {P : String → α → Prop}

/-- Every name and the value that is stored under it have a property. -/
def All (P : String → α → Prop) (d : Dictionary α) : Prop :=
  ∀ name value, d.get? name = some value → P name value

theorem all_empty (P : String → α → Prop) : (empty : Dictionary α).All P := by
  intro name value h
  simp at h

theorem All.insert {name : String} {value : α} (hd : d.All P) (h : P name value) :
    (d.insert name value).All P := by
  intro other found hfound
  rw [get?_insert] at hfound
  split at hfound
  · next hother =>
    cases hfound
    exact hother ▸ h
  · exact hd other found hfound

end Dictionary

/-! ## Names that agree -/

/-- The table and its columns record the name `key`. -/
structure Table.Keyed (key : String) (table : Table) : Prop where
  name : table.name = key
  columns : ∀ column ∈ table.columns, column.table = key

/-- The view records the name `key`. -/
structure View.Keyed (key : String) (view : View) : Prop where
  name : view.name = key

/-- The schema records the name `key`, and what is stored in it the name of its place. -/
structure Schema.Keyed (key : String) (schema : Schema) : Prop where
  name : schema.name = key
  tables : schema.tables.All Table.Keyed
  views : schema.views.All View.Keyed

/-- Everything in the catalog records the name under which it is stored, and the default schema
exists. -/
structure Catalog.Consistent (catalog : Catalog) : Prop where
  schemas : catalog.schemas.All Schema.Keyed
  default : (catalog.schema? catalog.defaultSchema).isSome

/-! ## Tables, views and schemas that are built -/

/-- The table was made by builders. -/
inductive Table.Built : Table → Prop where
  | new (name : String) : Built { name }
  | withColumn {table : Table} (h : Built table) (name : String) (type : ColumnType) :
      Built (table.withColumn name type)
  | withPrimaryKey {table : Table} (h : Built table) (name : String) (type : ColumnType) :
      Built (table.withPrimaryKey name type)

/-- The view was made by builders. -/
inductive View.Built : View → Prop where
  | new (name : String) : Built { name }
  | withColumn {view : View} (h : Built view) (name : String) (type : ColumnType) :
      Built (view.withColumn name type)
  | withReference {view : View} (h : Built view) (name : ObjectName) :
      Built (view.withReference name)

/-- The schema was made by builders, from tables and views that were. -/
inductive Schema.Built : Schema → Prop where
  | new (name : String) : Built { name }
  | withTable {schema : Schema} {table : Table} (h : Built schema) (htable : table.Built) :
      Built (schema.withTable table)
  | withView {schema : Schema} {view : View} (h : Built schema) (hview : view.Built) :
      Built (schema.withView view)

theorem Table.Keyed.addColumn {key : String} {table : Table} {column : Column}
    (h : table.Keyed key) (hcolumn : column.table = table.name) :
    ({ table with columns := table.columns ++ [column] } : Table).Keyed key := by
  refine ⟨h.name, ?_⟩
  intro other hother
  rcases List.mem_append.mp hother with hold | hnew
  · exact h.columns other hold
  · rw [List.mem_singleton.mp hnew, hcolumn, h.name]

/-- A table that was built goes by one name, its columns included. -/
theorem Table.Built.keyed {table : Table} (h : table.Built) : table.Keyed table.name := by
  induction h with
  | new name => exact ⟨rfl, by simp⟩
  | withColumn _ name type ih => exact ih.addColumn rfl
  | withPrimaryKey _ name type ih => exact ih.addColumn rfl

theorem Schema.Keyed.withTable {key : String} {schema : Schema} {table : Table}
    (h : schema.Keyed key) (htable : table.Built) : (schema.withTable table).Keyed key :=
  ⟨h.name, h.tables.insert htable.keyed, h.views⟩

theorem Schema.Keyed.withView {key : String} {schema : Schema} (view : View)
    (h : schema.Keyed key) : (schema.withView view).Keyed key :=
  ⟨h.name, h.tables, h.views.insert ⟨rfl⟩⟩

theorem Schema.keyed_new (name : String) : ({ name } : Schema).Keyed name :=
  ⟨rfl, Dictionary.all_empty _, Dictionary.all_empty _⟩

theorem Schema.Built.keyed {schema : Schema} (h : schema.Built) : schema.Keyed schema.name := by
  induction h with
  | new name => exact keyed_new name
  | withTable _ htable ih => exact ih.withTable htable
  | @withView schema view _ _ ih => exact ih.withView view

/-! ## Catalogs that are built -/

namespace Catalog

variable {catalog : Catalog}

/-- The catalog was made by builders, from tables, views and schemas that were. -/
inductive Built : Catalog → Prop where
  | new (name : String) : Built (.new name)
  | withSchema {catalog : Catalog} {schema : Schema} (h : Built catalog) (hschema : schema.Built) :
      Built (catalog.withSchema schema)
  | withTable {catalog : Catalog} {table : Table} (h : Built catalog) (htable : table.Built) :
      Built (catalog.withTable table)
  | withView {catalog : Catalog} {view : View} (h : Built catalog) (hview : view.Built) :
      Built (catalog.withView view)

theorem consistent_new (name : String) : (new name).Consistent where
  schemas := (Dictionary.all_empty _).insert (Schema.keyed_new name)
  default := by simp [new, schema?]

theorem Consistent.withSchema {schema : Schema} (h : catalog.Consistent)
    (hschema : schema.Keyed schema.name) : (catalog.withSchema schema).Consistent where
  schemas := h.schemas.insert hschema
  default := by
    show ((catalog.schemas.insert schema.name schema).get? catalog.defaultSchema).isSome
    rw [Dictionary.get?_insert]
    split
    · rfl
    · exact h.default

/-- A change of the default schema that keeps names in agreement. -/
theorem Consistent.modifyDefault {f : Schema → Schema} (h : catalog.Consistent)
    (hf : ∀ schema, schema.Keyed catalog.defaultSchema → (f schema).Keyed catalog.defaultSchema) :
    (catalog.modifyDefault f).Consistent where
  schemas := by
    obtain ⟨schema, hschema⟩ := Option.isSome_iff_exists.mp h.default
    unfold Catalog.modifyDefault
    simp only [hschema, Option.getD_some]
    exact h.schemas.insert (hf schema (h.schemas _ _ hschema))
  default := by simp [Catalog.modifyDefault, schema?]

/-- Builders keep names in agreement. -/
theorem Built.consistent (h : catalog.Built) : catalog.Consistent := by
  induction h with
  | new name => exact consistent_new name
  | withSchema _ hschema ih => exact ih.withSchema hschema.keyed
  | withTable _ htable ih => exact ih.modifyDefault fun _ hschema => hschema.withTable htable
  | @withView catalog view _ _ ih => exact ih.modifyDefault fun _ hschema => hschema.withView view

/-! ## The sample and stand-ins -/

theorem built_sampleUsers : sampleUsers.Built :=
  .withColumn (.withColumn (.withColumn (.withPrimaryKey (.new _) _ _) _ _) _ _) _ _

theorem built_sampleOrders : sampleOrders.Built :=
  .withColumn (.withColumn (.withColumn (.withPrimaryKey (.new _) _ _) _ _) _ _) _ _

theorem built_sampleProducts : sampleProducts.Built :=
  .withColumn (.withColumn (.withColumn (.withPrimaryKey (.new _) _ _) _ _) _ _) _ _

theorem built_sampleUserOrders : sampleUserOrders.Built :=
  .withReference (.withReference (.withColumn (.withColumn (.new _) _ _) _ _) _) _

theorem built_sampleBigSpenders : sampleBigSpenders.Built :=
  .withReference (.withReference (.withColumn (.withColumn (.new _) _ _) _ _) _) _

theorem built_sampleArchive : sampleArchive.Built :=
  .withTable (.new _) (.withColumn (.withPrimaryKey (.new _) _ _) _ _)

theorem built_sample : sample.Built := by
  unfold sample
  refine .withSchema ?_ built_sampleArchive
  refine .withView (.withView ?_ built_sampleUserOrders) built_sampleBigSpenders
  refine .withTable (.withTable (.withTable (.new _) ?_) built_sampleOrders) built_sampleProducts
  exact built_sampleUsers

end Catalog

/-- The stand-in was made by builders, from tables, views and schemas that were. -/
inductive StandIn.Built : StandIn → Prop where
  | new : Built {}
  | withSample {standIn : StandIn} (h : Built standIn) : Built standIn.withSample
  | withSchema {standIn : StandIn} {schema : Schema} (h : Built standIn) (hschema : schema.Built) :
      Built (standIn.modifyCatalog (·.withSchema schema))
  | withTable {standIn : StandIn} {table : Table} (h : Built standIn) (htable : table.Built) :
      Built (standIn.modifyCatalog (·.withTable table))
  | withView {standIn : StandIn} {view : View} (h : Built standIn) (hview : view.Built) :
      Built (standIn.modifyCatalog (·.withView view))
  | failingWith {standIn : StandIn} (h : Built standIn) (error : CatalogError) :
      Built (standIn.failingWith error)

/-- What a stand-in holds was made by the builders of catalogs. -/
theorem StandIn.Built.catalog {standIn : StandIn} (h : standIn.Built) : standIn.catalog.Built := by
  induction h with
  | new => exact .new "main"
  | withSample _ _ => exact Catalog.built_sample
  | withSchema _ hschema ih => exact .withSchema ih hschema
  | withTable _ htable ih => exact .withTable ih htable
  | withView _ hview ih => exact .withView ih hview
  | failingWith _ _ ih => exact ih

namespace Catalog

variable {catalog : Catalog}

/-! ## The check of a catalog that is built -/

/-- The check looks for each reference where the walk of its view does. -/
theorem Consistent.validate_eq_ok_iff_reads (h : catalog.Consistent) :
    catalog.validate = .ok () ↔
      ∀ home name view, catalog.view? home name = some view →
        ∀ key ∈ viewReads home view, (catalog.object? key.schema key.name).isSome := by
  rw [validate_eq_ok_iff]
  constructor
  · rintro ⟨-, hreferences⟩ home name view hview key hkey
    obtain ⟨schema, hschema, hstored⟩ := view?_eq_some_iff.mp hview
    obtain ⟨reference, hreference, rfl⟩ := List.mem_map.mp hkey
    have hfound := hreferences home schema name view hschema hstored reference hreference
    rwa [(h.schemas home schema hschema).name] at hfound
  · intro hreads
    refine ⟨h.default, ?_⟩
    intro home schema name view hschema hstored reference hreference
    rw [(h.schemas home schema hschema).name]
    exact hreads home name view (view?_eq_some_iff.mpr ⟨schema, hschema, hstored⟩) _
      (List.mem_map_of_mem hreference)

/-- The catalog was made by builders, by itself or in a stand-in. -/
inductive Made (catalog : Catalog) : Prop where
  | directly (h : catalog.Built)
  | inStandIn {standIn : StandIn} (h : standIn.Built) (hcatalog : standIn.catalog = catalog)

theorem Made.built (h : catalog.Made) : catalog.Built := by
  cases h with
  | directly h => exact h
  | inStandIn h hcatalog => exact hcatalog ▸ h.catalog

/-- In a catalog made by builders everything records the name under which it is stored and the
default schema exists. So the check never misses a schema, and it passes exactly if every place that
a stored view reads holds a table or view. -/
theorem builders_consistent (h : catalog.Made) :
    catalog.Consistent ∧
    (∀ name, catalog.validate ≠ .error (.invalidSchema name)) ∧
    (catalog.validate = .ok () ↔
      ∀ home name view, catalog.view? home name = some view →
        ∀ key ∈ viewReads home view, (catalog.object? key.schema key.name).isSome) := by
  have hconsistent := h.built.consistent
  exact ⟨hconsistent, validate_ne_invalidSchema hconsistent.default,
    hconsistent.validate_eq_ok_iff_reads⟩

/-- A stand-in in which the default schema of the sample is replaced by one without tables; then it
gets a table of the empty name, which its column records too, and a view that reads it. -/
theorem builders_consistent_after_replacement :
    let table : Table := ({ name := "" } : Table).withColumn "c" .unknown
    let view : View := ({ name := "v" } : View).withReference { object := "" }
    let standIn : StandIn := ({} : StandIn).withSample
      |>.modifyCatalog (·.withSchema { name := "main" })
      |>.modifyCatalog (·.withTable table)
      |>.modifyCatalog (·.withView view)
    standIn.catalog.Made ∧ standIn.catalog.Consistent ∧
      standIn.catalog.object? "main" "users" = none ∧
      standIn.catalog.table? "main" "" =
        some { name := "", columns := [{ table := "", name := "c", type := .unknown }] } ∧
      standIn.catalog.view? "main" "v" = some view ∧
      view = { name := "v", references := [{ schema := none, object := "" }] } ∧
      standIn.catalog.validate = .ok () ∧ (standIn.catalog.object? "main" "").isSome := by
  intro table view standIn
  have hmade : standIn.catalog.Made := by
    refine .inStandIn (.withView (.withTable (.withSchema (.withSample .new) ?_) ?_) ?_) rfl
    · exact .new "main"
    · exact .withColumn (.new "") "c" .unknown
    · exact .withReference (.new "v") { object := "" }
  obtain ⟨hconsistent, -, hreads⟩ := builders_consistent hmade
  have hview : standIn.catalog.view? "main" "v" = some view := by decide +kernel
  have hvalid : standIn.catalog.validate = .ok () := by decide +kernel
  exact ⟨hmade, hconsistent, by decide +kernel, by decide +kernel, hview, rfl, hvalid,
    hreads.mp hvalid "main" "v" view hview ⟨"main", ""⟩ List.mem_cons_self⟩

end Catalog

end QueryTyping
