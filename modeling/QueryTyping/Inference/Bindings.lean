import QueryTyping.InferredType

/-!
# What variables stand for

`Bindings` records, for some variables, the type that each of them stands for. That type may
mention variables in its turn, so reading a type means following bindings. A walk follows each
binding at most once: it goes on with the binding taken out (`erase`). Every walk therefore ends,
whatever the bindings are, and where no variable leads back to itself it never meets a variable
whose binding was taken out.

The walks are `resolve` (up to the first type that is no variable), `occurs` (does a variable lead
to another), and `concrete` (the column type in the end). All of them end because following a
binding lowers `weight` by more than the size of the type that is read next (`weight_erase_lt`).
-/

namespace QueryTyping

/-- The types that variables stand for. -/
structure Bindings where
  /-- The bound variables with their types; the first entry of a variable counts. -/
  entries : List (VarId × InferredType)
  deriving DecidableEq

namespace Bindings

/-- No variable is bound. -/
def empty : Bindings := ⟨[]⟩

instance : Inhabited Bindings := ⟨empty⟩

/-- The type that a variable is bound to. -/
def get? (b : Bindings) (id : VarId) : Option InferredType := b.entries.lookup id

/-- The bindings without that of a variable. -/
def erase (b : Bindings) (id : VarId) : Bindings :=
  ⟨b.entries.filter (fun entry => entry.1 != id)⟩

/-- Binds a variable, in the stead of what it was bound to. -/
def insert (b : Bindings) (id : VarId) (ty : InferredType) : Bindings :=
  ⟨(id, ty) :: (b.erase id).entries⟩

/-! ## What look-ups see -/

@[simp] theorem get?_empty (id : VarId) : empty.get? id = none := rfl

theorem lookup_filter_ne (id other : VarId) (entries : List (VarId × InferredType)) :
    (entries.filter (fun entry => entry.1 != id)).lookup other =
      if other = id then none else entries.lookup other := by
  induction entries with
  | nil => simp
  | cons entry rest ih =>
    obtain ⟨key, ty⟩ := entry
    by_cases hkey : key = id
    · subst hkey
      have hdropped : ((key, ty) :: rest).filter (fun entry => entry.1 != key)
          = rest.filter (fun entry => entry.1 != key) := by simp
      rw [hdropped, ih]
      by_cases h : other = key
      · simp [h]
      · have hne : (other == key) = false := by simpa using h
        simp [List.lookup_cons, h, hne]
    · have hkept : ((key, ty) :: rest).filter (fun entry => entry.1 != id)
          = (key, ty) :: rest.filter (fun entry => entry.1 != id) := by simp [hkey]
      rw [hkept]
      simp only [List.lookup_cons, ih]
      by_cases h : other = key
      · subst h
        simp [hkey]
      · have hne : (other == key) = false := by simpa using h
        simp [hne]

/-- Taking out a binding leaves the others. -/
theorem get?_erase (b : Bindings) (id other : VarId) :
    (b.erase id).get? other = if other = id then none else b.get? other :=
  lookup_filter_ne id other b.entries

/-- Binding a variable leaves the others. -/
theorem get?_insert (b : Bindings) (id other : VarId) (ty : InferredType) :
    (b.insert id ty).get? other = if other = id then some ty else b.get? other := by
  by_cases h : other = id
  · subst h
    simp [get?, insert]
  · have hne : (other == id) = false := by simpa using h
    have := get?_erase b id other
    simp only [get?, insert, List.lookup_cons, hne, if_neg h] at this ⊢
    exact this

/-! ## How long a walk can be -/

/-- The sizes of all bound types together. -/
def weight (b : Bindings) : Nat :=
  b.entries.foldr (fun entry total => entry.2.size + total) 0

theorem weight_filter_le (entries : List (VarId × InferredType)) (p : VarId × InferredType → Bool) :
    (entries.filter p).foldr (fun entry total => entry.2.size + total) 0 ≤
      entries.foldr (fun entry total => entry.2.size + total) 0 := by
  induction entries with
  | nil => simp
  | cons entry rest ih =>
    by_cases h : p entry = true
    · simp only [List.filter_cons_of_pos h, List.foldr_cons]
      omega
    · simp only [List.filter_cons_of_neg h, List.foldr_cons]
      omega

/-- The binding of a variable weighs as much as its type. -/
theorem weight_erase_le {b : Bindings} {id : VarId} {ty : InferredType} (h : b.get? id = some ty) :
    (b.erase id).weight + ty.size ≤ b.weight := by
  obtain ⟨entries⟩ := b
  simp only [get?, erase, weight] at h ⊢
  induction entries with
  | nil => simp at h
  | cons entry rest ih =>
    obtain ⟨key, bound⟩ := entry
    rw [List.lookup_cons] at h
    by_cases hkey : id = key
    · subst hkey
      simp only [BEq.rfl, Option.some.injEq] at h
      subst h
      have := weight_filter_le rest (fun entry => entry.1 != id)
      simp
      omega
    · have hne : (id == key) = false := by simpa using hkey
      have hkept : (key != id) = true := by simpa using fun hk => hkey hk.symm
      rw [hne] at h
      have := ih h
      simp only [List.filter_cons, hkept, if_true, List.foldr_cons]
      omega

/-- Following a binding shortens what is left of a walk. -/
theorem weight_erase_lt {b : Bindings} {id : VarId} {ty : InferredType} (h : b.get? id = some ty) :
    (b.erase id).weight + ty.size < b.weight + (InferredType.var id).size := by
  have := weight_erase_le h
  simp only [InferredType.size]
  omega

/-! ## Walks -/

/-- Follows the bindings of variables up to a type that is no variable, or a variable without
binding. -/
def resolve (b : Bindings) (ty : InferredType) : InferredType :=
  match ty with
  | .var id =>
    match _h : b.get? id with
    | some bound => (b.erase id).resolve bound
    | none => .var id
  | ty => ty
termination_by b.weight + ty.size
decreasing_by exact weight_erase_lt _h

/-- Whether a type leads to a variable: mentions it, or mentions a variable that is bound to a type
that leads to it. -/
def occurs (b : Bindings) (id : VarId) (ty : InferredType) : Bool :=
  match ty with
  | .var other =>
    other == id ||
      match _h : b.get? other with
      | some bound => (b.erase other).occurs id bound
      | none => false
  | .cast input result => b.occurs id input || b.occurs id result
  | .column _ | .oneOf _ => false
termination_by b.weight + ty.size
decreasing_by
  · exact weight_erase_lt _h
  · simp only [InferredType.size]; omega
  · simp only [InferredType.size]; omega

/-- The column type that a type comes down to. A variable without binding may be anything, of
several alternatives the first counts, and a cast is null if its input is; a cast inside a cast
passes on the nullability of its own input. -/
def concrete (b : Bindings) (ty : InferredType) : ColumnType :=
  match ty with
  | .column ty => ty
  | .oneOf alternatives => alternatives.head?.getD .unknown
  | .cast input result =>
    let inner := b.concrete result
    let inherited := inner.nullable && (b.resolve result).isCast
    inner.withNullable ((b.concrete input).nullable || inherited)
  | .var id =>
    match _h : b.get? id with
    | some bound => (b.erase id).concrete bound
    | none => .unknown
termination_by b.weight + ty.size
decreasing_by
  · simp only [InferredType.size]; omega
  · simp only [InferredType.size]; omega
  · exact weight_erase_lt _h

/-! ## Writing bindings -/

/-- Makes a variable stand for a type, unless the type leads back to the variable. -/
def assign (b : Bindings) (id : VarId) (ty : InferredType) : Bindings :=
  if b.occurs id ty then b else b.insert id ty

/-- Makes the variable of a root, if there is one, stand for a type. -/
def assignRoot (b : Bindings) (root : Option VarId) (ty : InferredType) : Bindings :=
  match root with
  | some id => b.assign id ty
  | none => b

end Bindings

end QueryTyping
