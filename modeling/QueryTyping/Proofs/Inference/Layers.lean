import QueryTyping.Proofs.Inference.Concrete
import QueryTyping.Proofs.Inference.Session

/-!
# Casts around casts

A type may be a cast whose result is a cast again, or a variable that stands for one, and so on. It
has layers, one for each cast that is met, up to a type that is no cast (`Layers`). In every session
that is reached a type has layers in exactly one way, and its column type is told by them
(`Session.concrete_of_layers`): the core type by the last type alone, and the nullability by the
inputs of all casts, or by the last type if there are none.

Casts of a type one after the other make such layers, unless they can be worked out at once. Either
way the last cast decides the core type, and the nullability is that of the type that was cast
first. Only alternatives are different, since all of them count when they are cast, and the first
when they are not.
-/

namespace QueryTyping

/-- The casts of a type to declared types, one after the other. -/
def InferredType.castAll (names : List TypeName) (ty : InferredType) : InferredType :=
  names.foldl (fun ty name => ofCast name ty) ty

namespace Bindings

variable {b : Bindings} {t e e' : InferredType} {inputs inputs' : List InferredType}

/-- Following variables and the results of casts, a type comes to the type `e`, which is no cast and
no bound variable; the casts on the way have the given inputs, the outermost first. -/
inductive Layers (b : Bindings) : InferredType → List InferredType → InferredType → Prop where
  | column (ty : ColumnType) : Layers b (.column ty) [] (.column ty)
  | oneOf (alternatives : List ColumnType) : Layers b (.oneOf alternatives) [] (.oneOf alternatives)
  | unbound {id : VarId} (h : b.get? id = none) : Layers b (.var id) [] (.var id)
  | bound {id : VarId} {ty e : InferredType} {inputs : List InferredType} (h : b.get? id = some ty)
      (hty : Layers b ty inputs e) : Layers b (.var id) inputs e
  | cast (input : InferredType) {result e : InferredType} {inputs : List InferredType}
      (h : Layers b result inputs e) : Layers b (.cast input result) (input :: inputs) e

/-! ## Layers -/

theorem Acyclic.layers (hb : b.Acyclic) (t : InferredType) :
    Layers b t (b.inputs t) (b.ending t) := by
  induction t using hb.induction with
  | column ty =>
    rw [inputs_column, ending_column]
    exact .column ty
  | oneOf alternatives =>
    rw [inputs_oneOf, ending_oneOf]
    exact .oneOf alternatives
  | cast input result _ ih =>
    rw [inputs_cast, ending_cast]
    exact .cast input ih
  | unbound id h =>
    rw [inputs_var_none h, ending_var_none h]
    exact .unbound h
  | bound id ty h ih =>
    rw [hb.inputs_bound h, hb.ending_bound h]
    exact .bound h ih

theorem Layers.unique (h : Layers b t inputs e) (h' : Layers b t inputs' e') :
    inputs = inputs' ∧ e = e' := by
  induction h generalizing inputs' e' with
  | column ty =>
    cases h'
    exact ⟨rfl, rfl⟩
  | oneOf alternatives =>
    cases h'
    exact ⟨rfl, rfl⟩
  | unbound hid =>
    cases h' with
    | unbound => exact ⟨rfl, rfl⟩
    | bound hid' _ =>
      rw [hid] at hid'
      cases hid'
  | bound hid _ ih =>
    cases h' with
    | unbound hid' =>
      rw [hid] at hid'
      cases hid'
    | bound hid' hty' =>
      rw [hid] at hid'
      cases hid'
      exact ih hty'
  | cast input _ ih =>
    cases h' with
    | cast _ h' =>
      obtain ⟨rfl, rfl⟩ := ih h'
      exact ⟨rfl, rfl⟩

/-- The layers are what is read off the chain of the type. -/
theorem Acyclic.layers_iff (hb : b.Acyclic) :
    Layers b t inputs e ↔ b.inputs t = inputs ∧ b.ending t = e := by
  constructor
  · intro h
    exact (hb.layers t).unique h
  · rintro ⟨rfl, rfl⟩
    exact hb.layers t

/-! ## Casts one after the other -/

theorem ofCast_ne_oneOf (name : TypeName) (t : InferredType) (alternatives : List ColumnType) :
    InferredType.ofCast name t ≠ .oneOf alternatives := by
  cases t <;> simp [InferredType.ofCast]

/-- A cast has the nullability of what is cast. -/
theorem concrete_ofCast_of_ne_oneOf (b : Bindings) (h : ∀ alternatives, t ≠ .oneOf alternatives)
    (name : TypeName) :
    b.concrete (.ofCast name t) = ⟨(b.concrete t).nullable, name.affinity⟩ := by
  cases t with
  | column ty => simp [InferredType.ofCast, ColumnType.withCore]
  | oneOf alternatives => exact (h alternatives rfl).elim
  | cast input result =>
    simp [InferredType.ofCast, concrete_cast b (.cast input result), ColumnType.withNullable,
      ColumnType.notNull]
  | var id => simp [InferredType.ofCast, concrete_cast, ColumnType.withNullable, ColumnType.notNull]

theorem concrete_castAll (b : Bindings) (h : ∀ alternatives, t ≠ .oneOf alternatives)
    {names : List TypeName} (hnames : names ≠ []) :
    b.concrete (.castAll names t) =
      ⟨(b.concrete t).nullable, (names.getLast hnames).affinity⟩ := by
  induction names generalizing t with
  | nil => exact (hnames rfl).elim
  | cons name names ih =>
    have hfirst := b.concrete_ofCast_of_ne_oneOf h name
    show b.concrete (.castAll names (.ofCast name t)) = _
    cases names with
    | nil => exact hfirst
    | cons next names =>
      rw [ih (ofCast_ne_oneOf name t) (List.cons_ne_nil next names), hfirst,
        List.getLast_cons (List.cons_ne_nil next names)]

end Bindings

namespace Session

open Bindings (Layers)

variable {s : Session}

/-- In every session that is reached, the layers of a type are determined, and its column type is
told by them. The core type is that of the type behind all casts. So is the nullability if there is
no cast; otherwise the type may be null exactly if one of the inputs may be. Hence a type that is
cast once or more often, and is not given by its alternatives, has the core type of the last cast
and its own nullability. -/
theorem concrete_of_layers (hs : s.Reachable) (t : InferredType) :
    (∃! layers : List InferredType × InferredType, Layers s.bindings t layers.1 layers.2) ∧
    (∀ inputs e, Layers s.bindings t inputs e →
      (s.inference.concrete t).core = (s.inference.concrete e).core ∧
      (inputs = [] → (s.inference.concrete t).nullable = (s.inference.concrete e).nullable) ∧
      (inputs ≠ [] → ((s.inference.concrete t).nullable = true ↔
        ∃ input ∈ inputs, (s.inference.concrete input).nullable = true))) ∧
    ((∀ alternatives, t ≠ .oneOf alternatives) → ∀ names : List TypeName, ∀ h : names ≠ [],
      s.inference.concrete (.castAll names t) =
        ⟨(s.inference.concrete t).nullable, (names.getLast h).affinity⟩) := by
  have hb := hs.acyclic
  refine ⟨⟨(s.bindings.inputs t, s.bindings.ending t), hb.layers t, ?_⟩, ?_, ?_⟩
  · rintro ⟨inputs, e⟩ h
    obtain ⟨rfl, rfl⟩ := hb.layers_iff.mp h
    rfl
  · intro inputs e h
    obtain ⟨rfl, rfl⟩ := hb.layers_iff.mp h
    have hnullable := hb.concrete_nullable t
    refine ⟨hb.concrete_core t, fun hnil => ?_, fun hcasts => ?_⟩
    · rwa [if_pos hnil] at hnullable
    · rw [if_neg hcasts] at hnullable
      show (s.bindings.concrete t).nullable = true ↔ _
      rw [hnullable, List.any_eq_true]
      rfl
  · intro h names hnames
    exact s.bindings.concrete_castAll h hnames

/-- A cast of the variable 2 to what the variable 0 stands for, which is a cast itself. What is
behind both casts may be null, but the inputs may not. -/
theorem concrete_of_layers_of_two_casts :
    let integer := InferredType.column (.orNull .integer)
    let s := run {} [
      .unify (.var 0) (.cast (.var 1) integer),
      .unify (.var 1) (.column (.notNull .string)),
      .unify (.var 2) (.oneOf [.notNull .float, .orNull .blob])]
    let t := InferredType.cast (.var 2) (.var 0)
    let names := [TypeName.mk ["BLOB"], TypeName.mk ["CHARACTER", "VARYING"]]
    s.Reachable ∧ Layers s.bindings t [.var 2, .var 1] integer ∧
      s.inference.concrete t = .notNull .integer ∧
      s.inference.concrete (.castAll names t) = .notNull .string := by
  intro integer s t names
  have hs : s.Reachable := ⟨_, _, rfl⟩
  have hlayers : Layers s.bindings t [.var 2, .var 1] integer :=
    .cast _ (.bound (by decide +kernel) (.cast _ (.column _)))
  have hinputs : ∀ input ∈ [InferredType.var 2, .var 1],
      (s.inference.concrete input).nullable = false := by
    decide +kernel
  have haffinity : (names.getLast (List.cons_ne_nil _ _)).affinity = .string := by decide +kernel
  obtain ⟨-, hcolumn, hcasts⟩ := concrete_of_layers hs t
  obtain ⟨hcore, -, hnullable⟩ := hcolumn _ _ hlayers
  have hnotNull : (s.inference.concrete t).nullable = false := by
    rw [Bool.eq_false_iff, Ne, hnullable (List.cons_ne_nil _ _)]
    rintro ⟨input, hmem, hnull⟩
    rw [hinputs input hmem] at hnull
    cases hnull
  have hend : s.inference.concrete integer = .orNull .integer := s.bindings.concrete_column _
  rw [hend] at hcore
  refine ⟨hs, hlayers, congrArg₂ ColumnType.mk hnotNull hcore, ?_⟩
  rw [hcasts (by simp [t]) names (List.cons_ne_nil _ _), hnotNull, haffinity]
  rfl

end Session

end QueryTyping
