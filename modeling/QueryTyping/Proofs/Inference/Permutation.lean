import QueryTyping.Proofs.Inference.Failure
import QueryTyping.Proofs.Inference.Links
import QueryTyping.Proofs.Inference.Outcomes

/-!
# The order of constraints

A variable about which nothing is known is unified with column types and alternatives, one after the
other. The first of them is taken as it is, and each of the others leaves the meets of what is known
with its own alternatives, as long as there are any (`Session.run_constraints_of_boundTo`). So the
order of the types makes no difference, nor does the side on which the variable stands
(`Session.constraints_commute`).

A single type is taken even if it has no alternative. This is why the number of types appears in
`Session.run_constraints`.
-/

namespace QueryTyping

open ColumnType (meets meetAll)

namespace Bindings

variable {b b' : Bindings} {v : VarId} {l r ty : InferredType} {A : Set ColumnType}

/-- The variable is bound to a column type or to alternatives, which are the given ones. -/
def BoundTo (b : Bindings) (v : VarId) (A : Set ColumnType) : Prop :=
  ∃ e, b.get? v = some e ∧ e.IsEnd ∧ e.options = A

theorem BoundTo.known_eq (hb : b.Acyclic) (h : b.BoundTo v A) : b.known (.var v) = some A := by
  obtain ⟨e, hv, he, rfl⟩ := h
  rw [hb.known_bound hv, known_of_isEnd b he]

theorem BoundTo.concrete_eq (hb : b.Acyclic) (hb' : b'.Acyclic) (h : b.BoundTo v A)
    (h' : b'.BoundTo v A) (hA : A.Subsingleton) : b.concrete (.var v) = b'.concrete (.var v) := by
  obtain ⟨e, hv, he, rfl⟩ := h
  obtain ⟨e', hv', he', hoptions⟩ := h'
  rw [hb.concrete_bound hv, hb'.concrete_bound hv']
  exact InferredType.concrete_eq_of_options_eq b b' he he' hoptions.symm hA

/-! ## One constraint -/

theorem resolve_of_isEnd (b : Bindings) (h : ty.IsEnd) : b.resolve ty = ty := by
  rw [← type_chain, Chain.type_of_isEnd b h]

/-- A type that leads nowhere is always written. -/
theorem Acyclic.boundTo_assignRoots (hb : b.Acyclic) {left right : Option VarId}
    (hroot : left = some v ∨ right = some v) (hty : ty.IsEnd) :
    ((b.assignRoot left ty).assignRoot right ty).BoundTo v ty.options := by
  have hoccurs : b.occurs v ty = false := by
    rcases hty with ⟨column, rfl⟩ | ⟨alternatives, rfl⟩
    · rw [occurs]
    · rw [occurs]
  refine ⟨ty, ?_, hty, rfl⟩
  rw [hb.get?_assignRoots, if_pos ⟨hroot, hoccurs⟩]

/-- A variable without binding takes the type, whichever side it stands on. -/
theorem Acyclic.unify_of_unbound (hb : b.Acyclic) (hv : b.get? v = none) (hty : ty.IsEnd)
    (hsides : l = .var v ∧ r = ty ∨ l = ty ∧ r = .var v) :
    (b.unify l r).1.isOk = true ∧ (b.unify l r).2.BoundTo v ty.options := by
  have hvar : b.resolve (.var v) = .var v := resolve_var_none hv
  have hself := b.resolve_of_isEnd hty
  have hroot : b.root (.var v) = some v := root_of_resolve_eq_var hvar
  have hleads : ¬b.Leads (b.resolve ty) v := by
    rintro ⟨w, hw, -⟩
    rw [hself, hty.not_mentions] at hw
    cases hw
  have hb' := hb.insert hleads
  rcases hsides with ⟨rfl, rfl⟩ | ⟨rfl, rfl⟩
  · rw [hb.unify_var_left hvar hleads]
    rw [hself] at hb' ⊢
    exact ⟨rfl, hb'.boundTo_assignRoots (Or.inl hroot) hty⟩
  · have hne : ∀ y, b.resolve l ≠ .var y := by
      rw [hself]
      exact casts_ne_var [] hty
    rw [hb.unify_var_right hne hvar hleads]
    rw [hself] at hb' ⊢
    exact ⟨rfl, hb'.boundTo_assignRoots (Or.inr hroot) hty⟩

/-- What a variable is bound to meets the type, whichever side it stands on. -/
theorem BoundTo.unify (hb : b.Acyclic) (h : b.BoundTo v A) (hty : ty.IsEnd)
    (hsides : l = .var v ∧ r = ty ∨ l = ty ∧ r = .var v) :
    ((b.unify l r).1.isOk = true ↔ (meets A ty.options).Nonempty) ∧
      ((meets A ty.options).Nonempty → (b.unify l r).2.BoundTo v (meets A ty.options)) := by
  obtain ⟨e, hv, he, rfl⟩ := h
  have hvar : b.resolve (.var v) = .casts [] e := by
    rw [hb.resolve_bound hv, b.resolve_of_isEnd he]
    rfl
  have hself : b.resolve ty = .casts [] ty := b.resolve_of_isEnd hty
  have hroot : b.root (.var v) = some v := by
    refine hb.root_eq_self fun w hw => ?_
    rw [hv, Option.some.injEq] at hw
    exact casts_ne_var [] he w hw
  rcases hsides with ⟨rfl, rfl⟩ | ⟨rfl, rfl⟩
  · refine ⟨hb.isOk_unify_casts_iff hvar hself he hty, fun hnonempty => ?_⟩
    obtain ⟨m, c, hm, hoptions, rfl, hunify⟩ := hb.unify_casts hvar hself he hty hnonempty
    rw [hunify, ← hoptions]
    exact hb.boundTo_assignRoots (Or.inl hroot) hm
  · rw [ColumnType.meets_comm]
    refine ⟨hb.isOk_unify_casts_iff hself hvar hty he, fun hnonempty => ?_⟩
    obtain ⟨m, c, hm, hoptions, rfl, hunify⟩ := hb.unify_casts hself hvar hty he hnonempty
    rw [hunify, ← hoptions]
    exact hb.boundTo_assignRoots (Or.inr hroot) hm

end Bindings

namespace Session

variable {s : Session} {v : VarId} {A : Set ColumnType}

/-- A type that a variable is unified with. -/
structure Constraint where
  type : InferredType
  /-- Whether the variable is the first of the two types that are unified. -/
  variableFirst : Bool := true

/-- The unification with a variable that makes up a constraint. -/
def Constraint.on (v : VarId) (constraint : Constraint) : Call :=
  if constraint.variableFirst then .unify (.var v) constraint.type
  else .unify constraint.type (.var v)

/-- What the types of all constraints have in common, to begin with anything that is not null. -/
def Constraint.left (constraints : List Constraint) : Set ColumnType :=
  meetAll {.notNull .any} (constraints.map (·.type.options))

/-- No unification fails in the run of the calls. -/
def Succeeds (s : Session) : List Call → Prop
  | [] => True
  | call :: calls => s.fails call = false ∧ (s.call call).Succeeds calls

/-! ## All constraints -/

theorem Constraint.exists_sides (v : VarId) (constraint : Constraint) :
    ∃ l r, constraint.on v = .unify l r ∧
      (l = .var v ∧ r = constraint.type ∨ l = constraint.type ∧ r = .var v) := by
  unfold Constraint.on
  split
  · exact ⟨_, _, rfl, Or.inl ⟨rfl, rfl⟩⟩
  · exact ⟨_, _, rfl, Or.inr ⟨rfl, rfl⟩⟩

theorem fails_unify_eq_false_iff {l r : InferredType} :
    s.fails (.unify l r) = false ↔ (s.bindings.unify l r).1.isOk = true := by
  rw [fails, Bool.not_eq_eq_eq_not, Bool.not_false]
  rfl

/-- The constraints on a variable that is bound succeed as long as something is left. -/
theorem run_constraints_of_boundTo (hs : s.Reachable) (h : s.bindings.BoundTo v A)
    {constraints : List Constraint} (hends : ∀ constraint ∈ constraints, constraint.type.IsEnd) :
    (s.Succeeds (constraints.map (·.on v)) ↔
        constraints = [] ∨ (meetAll A (constraints.map (·.type.options))).Nonempty) ∧
      (s.Succeeds (constraints.map (·.on v)) →
        (s.run (constraints.map (·.on v))).bindings.BoundTo v
          (meetAll A (constraints.map (·.type.options)))) := by
  induction constraints generalizing s A with
  | nil => exact ⟨⟨fun _ => Or.inl rfl, fun _ => trivial⟩, fun _ => h⟩
  | cons constraint constraints ih =>
    have hend := hends constraint List.mem_cons_self
    have hrest : ∀ other ∈ constraints, other.type.IsEnd := fun other hother =>
      hends other (List.mem_cons_of_mem constraint hother)
    obtain ⟨l, r, hcall, hsides⟩ := constraint.exists_sides v
    obtain ⟨hok, hbound⟩ := Bindings.BoundTo.unify hs.acyclic h hend hsides
    have hfails : s.fails (constraint.on v) = false ↔
        (meets A constraint.type.options).Nonempty := by
      rw [hcall, fails_unify_eq_false_iff, hok]
    have hnext (hnonempty : (meets A constraint.type.options).Nonempty) :
        (s.call (constraint.on v)).bindings.BoundTo v (meets A constraint.type.options) := by
      rw [hcall]
      exact hbound hnonempty
    simp only [List.map_cons, Succeeds, ColumnType.meetAll_cons, run_cons, hfails]
    refine ⟨⟨?_, ?_⟩, ?_⟩
    · rintro ⟨hnonempty, hsucceeds⟩
      refine Or.inr ?_
      rcases (ih (hs.call _) (hnext hnonempty) hrest).1.mp hsucceeds with rfl | hleft
      · exact hnonempty
      · exact hleft
    · rintro (hnil | hleft)
      · cases hnil
      · have hnonempty := ColumnType.nonempty_of_meetAll hleft
        exact ⟨hnonempty, (ih (hs.call _) (hnext hnonempty) hrest).1.mpr (Or.inr hleft)⟩
    · rintro ⟨hnonempty, hsucceeds⟩
      exact (ih (hs.call _) (hnext hnonempty) hrest).2 hsucceeds

/-- The constraints on a variable without binding succeed if there is at most one, or else as long
as something is left. -/
theorem run_constraints (hs : s.Reachable) (hv : s.bindings.get? v = none)
    {constraints : List Constraint} (hends : ∀ constraint ∈ constraints, constraint.type.IsEnd) :
    (s.Succeeds (constraints.map (·.on v)) ↔
        constraints.length ≤ 1 ∨ (Constraint.left constraints).Nonempty) ∧
      (s.Succeeds (constraints.map (·.on v)) → constraints ≠ [] →
        (s.run (constraints.map (·.on v))).bindings.BoundTo v (Constraint.left constraints)) := by
  cases constraints with
  | nil => exact ⟨⟨fun _ => Or.inl (Nat.zero_le 1), fun _ => trivial⟩, fun _ h => (h rfl).elim⟩
  | cons constraint constraints =>
    have hend := hends constraint List.mem_cons_self
    obtain ⟨l, r, hcall, hsides⟩ := constraint.exists_sides v
    obtain ⟨hok, hbound⟩ := hs.acyclic.unify_of_unbound hv hend hsides
    have hfails : s.fails (constraint.on v) = false := by
      rw [hcall, fails_unify_eq_false_iff, hok]
    have hnext : (s.call (constraint.on v)).bindings.BoundTo v constraint.type.options := by
      rw [hcall]
      exact hbound
    have hrun := run_constraints_of_boundTo (hs.call _) hnext fun other hother =>
      hends other (List.mem_cons_of_mem constraint hother)
    have hlength : (constraint :: constraints).length ≤ 1 ↔ constraints = [] := by
      rw [List.length_cons, ← List.length_eq_zero_iff]
      omega
    rw [hlength]
    simp only [List.map_cons, Succeeds, Constraint.left, ColumnType.meetAll_cons, run_cons,
      ColumnType.meets_notNull_any, hfails, true_and]
    exact ⟨hrun.1, fun hsucceeds _ => hrun.2 hsucceeds⟩

theorem Constraint.left_perm {constraints constraints' : List Constraint}
    (h : (constraints.map (·.type)).Perm (constraints'.map (·.type))) :
    left constraints = left constraints' := by
  apply ColumnType.meetAll_perm
  simpa [Function.comp_def] using h.map InferredType.options

/-- Column types leave at most one. -/
theorem Constraint.left_subsingleton {constraints : List Constraint}
    (h : ∀ constraint ∈ constraints, ∃ column, constraint.type = .column column) :
    (left constraints).Subsingleton := by
  refine ColumnType.meetAll_subsingleton Set.subsingleton_singleton fun B hB => ?_
  obtain ⟨constraint, hmem, rfl⟩ := List.mem_map.mp hB
  obtain ⟨column, hcolumn⟩ := h constraint hmem
  rw [hcolumn, InferredType.options_column]
  exact Set.subsingleton_singleton

/-- In any session that is reached, a variable without binding can be unified with column types and
alternatives in one order, on any sides, exactly if it can be in another order. It then stands for
the same alternatives, and comes down to the same column type if only column types were given. -/
theorem constraints_commute (hs : s.Reachable) (hv : s.bindings.get? v = none)
    {constraints constraints' : List Constraint}
    (hperm : (constraints.map (·.type)).Perm (constraints'.map (·.type)))
    (hends : ∀ constraint ∈ constraints, constraint.type.IsEnd) :
    let calls := constraints.map (·.on v)
    let calls' := constraints'.map (·.on v)
    (s.Succeeds calls ↔ s.Succeeds calls') ∧
      (s.Succeeds calls →
        (s.run calls).bindings.known (.var v) = (s.run calls').bindings.known (.var v) ∧
        ((∀ constraint ∈ constraints, ∃ column, constraint.type = .column column) →
          (s.run calls).inference.concrete (.var v) =
            (s.run calls').inference.concrete (.var v))) := by
  intro calls calls'
  have hends' : ∀ constraint ∈ constraints', constraint.type.IsEnd := by
    intro constraint hmem
    obtain ⟨other, hother, htype⟩ :=
      List.mem_map.mp (hperm.mem_iff.mpr (List.mem_map_of_mem hmem))
    exact htype ▸ hends other hother
  have hlength : constraints.length = constraints'.length := by
    simpa using hperm.length_eq
  have hleft := Constraint.left_perm hperm
  obtain ⟨hsucceeds, hbound⟩ := run_constraints hs hv hends
  obtain ⟨hsucceeds', hbound'⟩ := run_constraints hs hv hends'
  have hiff : s.Succeeds calls ↔ s.Succeeds calls' := by
    rw [hsucceeds, hsucceeds', hlength, hleft]
  refine ⟨hiff, fun h => ?_⟩
  rcases constraints with _ | ⟨constraint, constraints⟩
  · -- without constraints neither run makes a call
    obtain rfl := List.length_eq_zero_iff.mp hlength.symm
    exact ⟨rfl, fun _ => rfl⟩
  have hb := (hs.run calls).acyclic
  have hb' := (hs.run calls').acyclic
  have hone := hbound h (List.cons_ne_nil _ _)
  have hother := hbound' (hiff.mp h) fun hnil => by simp [hnil] at hlength
  rw [← hleft] at hother
  refine ⟨(hone.known_eq hb).trans (hother.known_eq hb').symm, fun hcolumns => ?_⟩
  exact hone.concrete_eq hb hb' hother (Constraint.left_subsingleton hcolumns)

/-- An integer that may be a float, a value that may be null, and a text that may be a float. -/
theorem constraints_commute_for_parameter :
    let s := run {} [.parameter (.positional 1)]
    let number := InferredType.oneOf [.notNull .integer, .notNull .float]
    let nullable := InferredType.column (.orNull .any)
    let reading := InferredType.oneOf [.notNull .string, .notNull .float]
    let constraints : List Constraint := [⟨number, true⟩, ⟨nullable, false⟩, ⟨reading, true⟩]
    let constraints' : List Constraint := [⟨reading, false⟩, ⟨number, false⟩, ⟨nullable, true⟩]
    let calls := constraints.map (·.on 0)
    let calls' := constraints'.map (·.on 0)
    s.Reachable ∧ s.bindings.get? 0 = none ∧ s.Succeeds calls ∧ s.Succeeds calls' ∧
      (s.run calls).bindings.known (.var 0) = (s.run calls').bindings.known (.var 0) ∧
      (s.run calls).bindings.get? 0 = some (.column (.orNull .float)) := by
  intro s number nullable reading constraints constraints' calls calls'
  have hs : s.Reachable := ⟨_, _, rfl⟩
  have hv : s.bindings.get? 0 = none := by decide +kernel
  have hsucceeds : s.Succeeds calls := by
    refine ⟨?_, ?_, ?_, trivial⟩
    all_goals decide +kernel
  have hperm : (constraints.map (·.type)).Perm (constraints'.map (·.type)) := by
    simp only [constraints, constraints', number, nullable, reading]
    decide
  have hends : ∀ constraint ∈ constraints, constraint.type.IsEnd := by
    simp [constraints, number, nullable, reading, InferredType.IsEnd]
  obtain ⟨hiff, hsame⟩ := constraints_commute hs hv hperm hends
  refine ⟨hs, hv, hsucceeds, hiff.mp hsucceeds, (hsame hsucceeds).1, ?_⟩
  decide +kernel

end Session

end QueryTyping
