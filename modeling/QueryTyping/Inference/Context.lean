import QueryTyping.Inference.Unify
import QueryTyping.Name

/-!
# Inference for a statement

An inference holds what is known about the variables of one statement and which variable each of
its parameters has. Variables are numbered by a supply that all inferences share, so that a
variable means the same thing wherever it turns up.
-/

namespace QueryTyping

/-- The numbers that are left for variables. -/
structure Supply where
  /-- The number of the next variable. -/
  next : VarId := 0
  deriving DecidableEq

namespace Supply

/-- A variable that was not handed out before. -/
def fresh (supply : Supply) : VarId × Supply := (supply.next, ⟨supply.next + 1⟩)

end Supply

/-- What is known about the variables and the parameters of a statement. -/
structure Inference where
  /-- What the variables stand for. -/
  bindings : Bindings := .empty
  /-- The variables of the parameters, in the order in which they were first asked for. -/
  parameterVariables : List (Parameter × VarId) := []
  deriving DecidableEq

namespace Inference

/-- The inference that knows nothing. -/
def empty : Inference := {}

instance : Inhabited Inference := ⟨empty⟩

/-- The variable of a parameter; one that was not asked for before gets a fresh variable. -/
def parameter (inference : Inference) (supply : Supply) (parameter : Parameter) :
    InferredType × Inference × Supply :=
  match inference.parameterVariables.lookup parameter with
  | some id => (.var id, inference, supply)
  | none =>
    let (id, supply) := supply.fresh
    let parameterVariables := inference.parameterVariables ++ [(parameter, id)]
    (.var id, { inference with parameterVariables }, supply)

/-- Records that two types describe the same value. -/
def unify (inference : Inference) (left right : InferredType) :
    Except TypeError InferredType × Inference :=
  let (outcome, bindings) := inference.bindings.unify left right
  (outcome, { inference with bindings })

/-- The column type that a type comes down to by now. -/
def concrete (inference : Inference) (ty : InferredType) : ColumnType :=
  inference.bindings.concrete ty

/-- The parameters that were asked for, in the order of their first use. -/
def parameters (inference : Inference) : List Parameter :=
  inference.parameterVariables.map (·.1)

/-- The parameters with the column types that they come down to by now. -/
def parameterTypes (inference : Inference) : List (Parameter × ColumnType) :=
  inference.parameterVariables.map (fun entry => (entry.1, inference.concrete (.var entry.2)))

end Inference

end QueryTyping
