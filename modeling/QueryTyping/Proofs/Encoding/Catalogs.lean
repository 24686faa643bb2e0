import QueryTyping.Encoding.Catalogs

/-!
# Catalogs are read as they are written

Writing a record names each field once, in the order in which reading knows them, so that every
field is found again (`Fields.ofNode?_object`). Lists are read item by item. Writing a dictionary
keeps its entries in order, and reading puts them one behind the other (`Dictionary.ofList_entries`).
From these each kind of record follows, up to `Catalog.ofNode?_toJson`: whatever the names and types
in a catalog are, its JSON form is read as the same catalog.
-/

namespace QueryTyping

variable {α : Type}

/-! ## Dictionaries -/

namespace Dictionary

theorem insertEntry_of_forall_lt {name : String} {entries : List (String × α)} (value : α)
    (h : ∀ entry ∈ entries, entry.1 < name) :
    insertEntry name value entries = entries ++ [(name, value)] := by
  induction entries with
  | nil => rfl
  | cons head rest ih =>
    obtain ⟨other, old⟩ := head
    have hlt : other < name := h _ List.mem_cons_self
    have hnot : ¬name < other := fun hgt => String.lt_irrefl _ (String.lt_trans hlt hgt)
    have hne : name ≠ other := by
      rintro rfl
      exact hnot hlt
    rw [insertEntry, if_neg hnot, if_neg hne,
      ih fun entry hentry => h entry (List.mem_cons_of_mem _ hentry)]
    rfl

/-- Entries that are in order are put one behind the other. -/
theorem entries_foldl_insert (rest : List (String × α)) (d : Dictionary α)
    (h : (d.entries ++ rest).Pairwise fun a b => a.1 < b.1) :
    (rest.foldl (fun d entry => d.insert entry.1 entry.2) d).entries = d.entries ++ rest := by
  induction rest generalizing d with
  | nil => simp
  | cons entry rest ih =>
    have hsmaller : ∀ other ∈ d.entries, other.1 < entry.1 := fun other hother =>
      (List.pairwise_append.mp h).2.2 other hother entry List.mem_cons_self
    have hinsert : (d.insert entry.1 entry.2).entries = d.entries ++ [entry] :=
      insertEntry_of_forall_lt entry.2 hsmaller
    have happend : (d.insert entry.1 entry.2).entries ++ rest = d.entries ++ entry :: rest := by
      rw [hinsert, List.append_assoc]
      rfl
    rw [List.foldl_cons, ih _ (happend ▸ h), happend]

theorem eq_of_entries {d d' : Dictionary α} (h : d.entries = d'.entries) : d = d' := by
  cases d
  cases d'
  cases h
  rfl

@[simp] theorem ofList_entries (d : Dictionary α) : ofList d.entries = d := by
  apply eq_of_entries
  exact entries_foldl_insert d.entries empty d.ordered

end Dictionary

/-! ## Records, lists and dictionaries -/

/-- A record that is written with each of its fields, in order, is read with these fields. -/
theorem Fields.ofNode?_object {names : List String} {members : List (String × Json)}
    (hnames : members.map (·.1) = names) (hnodup : names.Nodup) :
    Fields.ofNode? names (Json.object members) = some ⟨members⟩ := by
  subst hnames
  have hknown : members.filter (fun entry => entry.1 ∈ members.map (·.1)) = members := by
    rw [List.filter_eq_self]
    intro entry hentry
    exact decide_eq_true (List.mem_map_of_mem hentry)
  unfold Fields.ofNode?
  simp only [DataNode.entries?, hknown, if_pos hnodup]

namespace DataNode

variable {read : Json → Option α} {write : α → Json}

theorem mapM_read {β γ : Type} {read : β → Option γ} {write : γ → β}
    (h : ∀ value, read (write value) = some value) (values : List γ) :
    (values.map write).mapM read = some values := by
  induction values with
  | nil => rfl
  | cons value values ih =>
    rw [List.map_cons, List.mapM_cons, h, ih]
    rfl

theorem list?_array (h : ∀ value, read (write value) = some value) (values : List α) :
    list? read (Json.array (values.map write)) = some values :=
  mapM_read h values

theorem dictionary?_ofDictionary (h : ∀ value, read (write value) = some value)
    (d : Dictionary α) : dictionary? read (Json.ofDictionary write d) = some d := by
  have hentries : (d.entries.map fun entry => (entry.1, write entry.2)).mapM
      (fun entry => (read entry.2).map (entry.1, ·)) = some d.entries :=
    mapM_read (fun entry => by simp [h]) d.entries
  unfold dictionary? Json.ofDictionary
  simp only [entries?, Option.bind_eq_bind, Option.bind_some, hentries]
  rw [Dictionary.ofList_entries]
  rfl

end DataNode

/-! ## Names and types -/

@[simp] theorem ObjectName.ofNode?_toJson (name : ObjectName) :
    ObjectName.ofNode? name.toJson = some name := by
  unfold ObjectName.ofNode? ObjectName.toJson
  rw [Fields.ofNode?_object (by rfl) (by decide)]
  obtain ⟨_ | schema, object⟩ := name
  · rfl
  · rfl

@[simp] theorem CoreType.ofNode?_toJson (core : CoreType) :
    CoreType.ofNode? core.toJson = some core :=
  CoreType.ofName?_name core

@[simp] theorem ColumnType.ofNode?_toJson (ty : ColumnType) :
    ColumnType.ofNode? ty.toJson = some ty := by
  unfold ColumnType.ofNode? ColumnType.toJson
  rw [Fields.ofNode?_object (by rfl) (by decide)]
  simp [Fields.required, Fields.get?, DataNode.flag?, Json.bool?, List.lookup_cons]

/-! ## Catalogs -/

@[simp] theorem Column.ofNode?_toJson (column : Column) :
    Column.ofNode? column.toJson = some column := by
  unfold Column.ofNode? Column.toJson
  rw [Fields.ofNode?_object (by rfl) (by decide)]
  simp [Fields.required, Fields.withDefault, Fields.get?, DataNode.flag?, DataNode.text?,
    Json.bool?, Json.string?, List.lookup_cons]

@[simp] theorem Table.ofNode?_toJson (table : Table) : Table.ofNode? table.toJson = some table := by
  unfold Table.ofNode? Table.toJson
  rw [Fields.ofNode?_object (by rfl) (by decide)]
  simp [Fields.withDefault, Fields.get?, DataNode.text?, Json.string?, List.lookup_cons,
    DataNode.list?_array Column.ofNode?_toJson]

@[simp] theorem ViewColumn.ofNode?_toJson (column : ViewColumn) :
    ViewColumn.ofNode? column.toJson = some column := by
  unfold ViewColumn.ofNode? ViewColumn.toJson
  rw [Fields.ofNode?_object (by rfl) (by decide)]
  simp [Fields.required, Fields.get?, DataNode.text?, Json.string?, List.lookup_cons]

@[simp] theorem View.ofNode?_toJson (view : View) : View.ofNode? view.toJson = some view := by
  unfold View.ofNode? View.toJson
  rw [Fields.ofNode?_object (by rfl) (by decide)]
  simp [Fields.withDefault, Fields.get?, DataNode.text?, Json.string?, List.lookup_cons,
    DataNode.list?_array ViewColumn.ofNode?_toJson, DataNode.list?_array ObjectName.ofNode?_toJson]

@[simp] theorem Schema.ofNode?_toJson (schema : Schema) :
    Schema.ofNode? schema.toJson = some schema := by
  unfold Schema.ofNode? Schema.toJson
  rw [Fields.ofNode?_object (by rfl) (by decide)]
  simp [Fields.withDefault, Fields.get?, DataNode.text?, Json.string?, List.lookup_cons,
    DataNode.dictionary?_ofDictionary Table.ofNode?_toJson,
    DataNode.dictionary?_ofDictionary View.ofNode?_toJson]

@[simp] theorem Catalog.ofNode?_toJson (catalog : Catalog) :
    Catalog.ofNode? catalog.toJson = some catalog := by
  unfold Catalog.ofNode? Catalog.toJson
  rw [Fields.ofNode?_object (by rfl) (by decide)]
  simp [Fields.required, Fields.withDefault, Fields.get?, DataNode.text?, Json.string?,
    List.lookup_cons, DataNode.dictionary?_ofDictionary Schema.ofNode?_toJson]

end QueryTyping
