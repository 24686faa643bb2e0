/-!
# Column types

A column stores values of one core type and may or may not hold null. The core type `any` stands
for a type that is not known; it goes together with every other one.

Two column types that describe the same value have a meet (`ColumnType.meet`), which is null when
either is. Lists of alternatives meet pairwise (`ColumnType.commonAlternatives`).
-/

namespace QueryTyping

/-- What kind of value a column stores. -/
inductive CoreType where
  | integer
  | float
  | string
  | blob
  | boolean
  | any
  deriving DecidableEq

namespace CoreType

/-- All core types, in their order. -/
def all : List CoreType := [integer, float, string, blob, boolean, any]

/-- The place of a core type in the order. -/
def rank : CoreType → Nat
  | integer => 0
  | float => 1
  | string => 2
  | blob => 3
  | boolean => 4
  | any => 5

/-- The order of the core types. -/
def le (a b : CoreType) : Bool := a.rank ≤ b.rank

/-- The core type as it is declared in a query. -/
def render : CoreType → String
  | integer => "INTEGER"
  | float => "REAL"
  | string => "TEXT"
  | blob => "BLOB"
  | boolean => "BOOLEAN"
  | any => "ANY"

/-- The core type of a value that has both types: the types are equal, or one of them is `any`. -/
def meet : CoreType → CoreType → Option CoreType
  | any, other => some other
  | other, any => some other
  | left, right => if left = right then some left else none

end CoreType

/-- The type of a column. -/
structure ColumnType where
  /-- Whether the column may hold null. -/
  nullable : Bool
  /-- What it stores otherwise. -/
  core : CoreType
  deriving DecidableEq

namespace ColumnType

/-- A column type without null. -/
def notNull (core : CoreType) : ColumnType := ⟨false, core⟩

/-- A column type with null. -/
def orNull (core : CoreType) : ColumnType := ⟨true, core⟩

/-- What is known of a value of which nothing is known. -/
def unknown : ColumnType := orNull .any

/-- The same nullability with another core type. -/
def withCore (ty : ColumnType) (core : CoreType) : ColumnType := { ty with core }

/-- The same core type with another nullability. -/
def withNullable (ty : ColumnType) (nullable : Bool) : ColumnType := { ty with nullable }

/-- The column type as it is declared: a nullable one is marked. -/
def render (ty : ColumnType) : String :=
  if ty.nullable then ty.core.render ++ " NULL" else ty.core.render

/-- The type of a value that has both types, null if either allows it. -/
def meet (left right : ColumnType) : Option ColumnType :=
  (left.core.meet right.core).map (⟨left.nullable || right.nullable, ·⟩)

/-- The meets of the alternatives on two sides, each once, in the order of the left side. -/
def commonAlternatives (left right : List ColumnType) : List ColumnType :=
  left.foldl (fun found l =>
    right.foldl (fun found r =>
      match l.meet r with
      | some ty => if ty ∈ found then found else found ++ [ty]
      | none => found) found) []

end ColumnType

end QueryTyping
