import QueryTyping.Literal
import QueryTyping.TypeName

/-!
# Inferred types

What is known about the type of an expression before a query is fully read: a column type, one of
several column types, the result of a cast, or a variable that stands for a type yet to be found.
A cast has the type of its result, but is null exactly when its input is.
-/

namespace QueryTyping

/-- The number of a type variable. -/
abbrev VarId := UInt64

/-- What is known about the type of an expression. -/
inductive InferredType where
  /-- A column type. -/
  | column (type : ColumnType)
  /-- One of several column types, the preferred one first. -/
  | oneOf (alternatives : List ColumnType)
  /-- A value of type `result`, null if the value of type `input` is null. -/
  | cast (input result : InferredType)
  /-- A type yet to be found. -/
  | var (id : VarId)
  deriving DecidableEq

namespace InferredType

/-- How many constructors a type is made of. -/
def size : InferredType → Nat
  | column _ => 1
  | oneOf _ => 1
  | cast input result => input.size + result.size + 1
  | var _ => 1

/-- Whether a variable stands in a type. -/
def mentions (id : VarId) : InferredType → Bool
  | column _ => false
  | oneOf _ => false
  | cast input result => input.mentions id || result.mentions id
  | var other => other == id

/-- Whether the type is a cast. -/
def isCast : InferredType → Bool
  | cast _ _ => true
  | _ => false

/-- The type as it is shown to the author of a query. -/
def render : InferredType → String
  | column ty => ty.render
  | oneOf alternatives =>
    "one of (" ++ ", ".intercalate (alternatives.map ColumnType.render) ++ ")"
  | cast input result => result.render ++ " (null if " ++ input.render ++ " is null)"
  | var id => "'t" ++ toString id.toNat

/-- The type of a constant. An integer may stand for a float as well, but is an integer at first. -/
def ofLiteral : Literal → InferredType
  | .null => column .unknown
  | .currentTime | .currentDate | .currentTimestamp | .string _ => column (.notNull .string)
  | .blob _ => column (.notNull .blob)
  | .integer _ => oneOf [.notNull .integer, .notNull .float]
  | .float _ => column (.notNull .float)

/-- The type of a value of type `input` after a cast to a declared type. Where the nullability of
the input is known the result is a column type; otherwise it stays tied to the input. -/
def ofCast (name : TypeName) (input : InferredType) : InferredType :=
  match input with
  | column ty => column (ty.withCore name.affinity)
  | oneOf alternatives => column ⟨alternatives.any (·.nullable), name.affinity⟩
  | cast _ _ | var _ => cast input (column (.notNull name.affinity))

/-- The type that two lists of alternatives have in common: none if no two go together, a column
type if there is one way. -/
def narrow (left right : List ColumnType) : Option InferredType :=
  match ColumnType.commonAlternatives left right with
  | [] => none
  | [ty] => some (column ty)
  | alternatives => some (oneOf alternatives)

end InferredType

end QueryTyping
