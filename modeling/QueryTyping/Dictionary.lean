/-!
# Dictionaries

Finite maps from names to values, held as a list of entries in strictly ascending order of the
names. The order is part of the type, so that two dictionaries with the same entries are equal,
and walking a dictionary always meets its names in ascending order of their code points.

Main statements: `get?_insert` (the only entry that an insertion changes is its own) and
`mem_entries_iff` (the entries are exactly what look-ups find).
-/

namespace QueryTyping

/-- A finite map from names, its entries in strictly ascending order of their names. -/
structure Dictionary (α : Type) where
  /-- The entries, in ascending order of their names. -/
  entries : List (String × α)
  /-- No name stands twice, and each stands after the smaller ones. -/
  ordered : entries.Pairwise (fun a b => a.1 < b.1)

namespace Dictionary

variable {α β : Type}

/-! ## Sorted entry lists -/

/-- Puts an entry in its place, in the stead of an entry of the same name. -/
def insertEntry (name : String) (value : α) : List (String × α) → List (String × α)
  | [] => [(name, value)]
  | (other, old) :: rest =>
    if name < other then (name, value) :: (other, old) :: rest
    else if name = other then (name, value) :: rest
    else (other, old) :: insertEntry name value rest

theorem mem_insertEntry {name : String} {value : α} {entries : List (String × α)}
    {entry : String × α} (h : entry ∈ insertEntry name value entries) :
    entry = (name, value) ∨ entry ∈ entries := by
  induction entries with
  | nil => simpa [insertEntry] using h
  | cons head rest ih =>
    obtain ⟨other, old⟩ := head
    simp only [insertEntry] at h
    split at h
    · simpa using h
    · split at h
      · rcases List.mem_cons.1 h with h | h
        · exact .inl h
        · exact .inr (List.mem_cons_of_mem _ h)
      · rcases List.mem_cons.1 h with h | h
        · exact .inr (h ▸ List.mem_cons_self)
        · exact (ih h).imp id (List.mem_cons_of_mem _)

/-- An insertion keeps the entries in order. -/
theorem insertEntry_ordered (name : String) (value : α) {entries : List (String × α)}
    (h : entries.Pairwise (fun a b => a.1 < b.1)) :
    (insertEntry name value entries).Pairwise (fun a b => a.1 < b.1) := by
  induction entries with
  | nil => simp [insertEntry]
  | cons head rest ih =>
    obtain ⟨other, old⟩ := head
    obtain ⟨hhead, hrest⟩ := List.pairwise_cons.1 h
    simp only [insertEntry]
    split
    case isTrue hlt =>
      refine List.pairwise_cons.2 ⟨fun entry hentry => ?_, h⟩
      rcases List.mem_cons.1 hentry with rfl | hentry
      · exact hlt
      · exact String.lt_trans hlt (hhead entry hentry)
    case isFalse hnlt =>
      split
      case isTrue heq =>
        subst heq
        exact List.pairwise_cons.2 ⟨hhead, hrest⟩
      case isFalse hne =>
        refine List.pairwise_cons.2 ⟨fun entry hentry => ?_, ih hrest⟩
        rcases mem_insertEntry hentry with rfl | hentry
        · show other < name
          grind
        · exact hhead entry hentry

/-! ## Operations -/

/-- The dictionary without entries. -/
def empty : Dictionary α := ⟨[], List.Pairwise.nil⟩

instance : Inhabited (Dictionary α) := ⟨empty⟩

instance : EmptyCollection (Dictionary α) := ⟨empty⟩

instance [DecidableEq α] : DecidableEq (Dictionary α) := fun a b =>
  if h : a.entries = b.entries then
    isTrue (by cases a; cases b; subst h; rfl)
  else
    isFalse (fun h' => h (h' ▸ rfl))

/-- The value stored under a name. -/
def get? (d : Dictionary α) (name : String) : Option α := d.entries.lookup name

/-- Whether a name is present. -/
def contains (d : Dictionary α) (name : String) : Bool := (d.get? name).isSome

/-- Stores a value under a name, in the stead of what was there. -/
def insert (d : Dictionary α) (name : String) (value : α) : Dictionary α :=
  ⟨insertEntry name value d.entries, insertEntry_ordered name value d.ordered⟩

/-- The names, in ascending order. -/
def names (d : Dictionary α) : List String := d.entries.map (·.1)

/-- The values, in ascending order of their names. -/
def values (d : Dictionary α) : List α := d.entries.map (·.2)

/-- The dictionary of a list of entries; of two entries with one name the later one counts. -/
def ofList (entries : List (String × α)) : Dictionary α :=
  entries.foldl (fun d entry => d.insert entry.1 entry.2) empty

/-- Replaces every value by what a function makes of its name and itself. -/
def mapEntries (f : String → α → β) (d : Dictionary α) : Dictionary β where
  entries := d.entries.map (fun entry => (entry.1, f entry.1 entry.2))
  ordered := List.pairwise_map.2 d.ordered

/-! ## What look-ups see -/

theorem lookup_cons_of_ne {name key : String} (h : name ≠ key) (value : α)
    (entries : List (String × α)) :
    ((key, value) :: entries).lookup name = entries.lookup name := by
  have hne : (name == key) = false := by simpa using h
  rw [List.lookup_cons, hne]

theorem lookup_insertEntry (name other : String) (value : α) (entries : List (String × α)) :
    (insertEntry name value entries).lookup other =
      if other = name then some value else entries.lookup other := by
  induction entries with
  | nil =>
    by_cases h : other = name
    · simp [insertEntry, h]
    · simp [insertEntry, lookup_cons_of_ne h, h]
  | cons head rest ih =>
    obtain ⟨key, old⟩ := head
    simp only [insertEntry]
    split
    · by_cases h : other = name
      · simp [h]
      · rw [lookup_cons_of_ne h, if_neg h]
    · split
      case isTrue heq =>
        subst heq
        by_cases h : other = name
        · simp [h]
        · rw [lookup_cons_of_ne h, lookup_cons_of_ne h, if_neg h]
      case isFalse hne =>
        by_cases h : other = name
        · subst h
          rw [lookup_cons_of_ne hne, ih]
          simp
        · simp only [List.lookup_cons, ih, if_neg h]

@[simp] theorem get?_empty (name : String) : (empty : Dictionary α).get? name = none := rfl

/-- An insertion changes the entry of its own name and no other. -/
theorem get?_insert (d : Dictionary α) (name other : String) (value : α) :
    (d.insert name value).get? other = if other = name then some value else d.get? other :=
  lookup_insertEntry name other value d.entries

@[simp] theorem get?_insert_self (d : Dictionary α) (name : String) (value : α) :
    (d.insert name value).get? name = some value := by
  simp [get?_insert]

theorem get?_mapEntries (f : String → α → β) (d : Dictionary α) (name : String) :
    (d.mapEntries f).get? name = (d.get? name).map (f name) := by
  obtain ⟨entries, h⟩ := d
  show (entries.map (fun entry => (entry.1, f entry.1 entry.2))).lookup name = _
  simp only [get?]
  clear h
  induction entries with
  | nil => rfl
  | cons head rest ih =>
    obtain ⟨key, value⟩ := head
    simp only [List.map_cons, List.lookup_cons]
    by_cases hkey : name = key
    · subst hkey
      simp
    · have hne : (name == key) = false := by simpa using hkey
      simpa [hne] using ih

theorem mem_entries_of_get? {d : Dictionary α} {name : String} {value : α}
    (h : d.get? name = some value) : (name, value) ∈ d.entries := by
  obtain ⟨entries, hordered⟩ := d
  simp only [get?] at h ⊢
  clear hordered
  induction entries with
  | nil => simp at h
  | cons head rest ih =>
    obtain ⟨key, old⟩ := head
    simp only [List.lookup_cons] at h
    by_cases hkey : name = key
    · subst hkey
      simp at h
      simp [h]
    · have hne : (name == key) = false := by simpa using hkey
      rw [hne] at h
      exact List.mem_cons_of_mem _ (ih h)

theorem get?_of_mem_entries {d : Dictionary α} {name : String} {value : α}
    (h : (name, value) ∈ d.entries) : d.get? name = some value := by
  obtain ⟨entries, hordered⟩ := d
  simp only [get?]
  induction entries with
  | nil => simp at h
  | cons head rest ih =>
    obtain ⟨key, old⟩ := head
    obtain ⟨hhead, hrest⟩ := List.pairwise_cons.1 hordered
    rcases List.mem_cons.1 h with h | h
    · cases h
      simp
    · have hlt : key < name := hhead _ h
      have hne : (name == key) = false := by
        simp only [beq_eq_false_iff_ne]
        rintro rfl
        exact String.lt_irrefl _ hlt
      simp only [List.lookup_cons, hne]
      exact ih hrest h

/-- The entries are exactly what look-ups find. -/
theorem mem_entries_iff {d : Dictionary α} {name : String} {value : α} :
    (name, value) ∈ d.entries ↔ d.get? name = some value :=
  ⟨get?_of_mem_entries, mem_entries_of_get?⟩

theorem mem_names_iff {d : Dictionary α} {name : String} :
    name ∈ d.names ↔ ∃ value, d.get? name = some value := by
  simp only [names, List.mem_map]
  constructor
  · rintro ⟨⟨key, value⟩, h, rfl⟩
    exact ⟨value, get?_of_mem_entries h⟩
  · rintro ⟨value, h⟩
    exact ⟨(name, value), mem_entries_of_get? h, rfl⟩

end Dictionary

end QueryTyping
