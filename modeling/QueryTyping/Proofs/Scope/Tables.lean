import QueryTyping.Proofs.Catalog.Walk

/-!
# Tables through the levels of a scope

A table name without schema stands for the common table expression of the innermost level that
declares it, and for an object of the default schema if no level does. A name with a schema stands
for an object of that schema, whatever the levels declare (`Scope.table_eq_declared`).

What an object of a schema is, and which tables it touches, is said by the catalog alone
(`Catalog.StandsFor`): a table hides a view of the same name.
-/

namespace QueryTyping

namespace Catalog

/-- What a name in a schema stands for, with the tables that looking it up touches. -/
inductive StandsFor (catalog : Catalog) (schema object : String) :
    Lookup Query × List BaseTable → Prop where
  /-- A table: its columns in order, as columns of a source of the name that it records. -/
  | table {table : Table} (htable : catalog.table? schema object = some table) :
      StandsFor catalog schema object
        (.found ⟨table.columns.map fun column =>
          { source := some table.name, name := column.name, type := .column column.type,
            primaryKey := column.primaryKey }⟩,
        [⟨⟨schema, object⟩, table⟩])
  /-- A view, if there is no table: its columns in order, none of them of a primary key. It touches
  the tables that it reads, directly or through other views. -/
  | view {view : View} {walk : Walk} (hview : catalog.ViewAt ⟨schema, object⟩ view)
      (hwalk : catalog.Walked schema view walk) :
      StandsFor catalog schema object
        (.found ⟨view.columns.map fun column =>
          { source := some view.name, name := column.name, type := .column column.type,
            primaryKey := false }⟩,
        walk.touched)
  /-- Nothing, if there is neither. -/
  | missing {problem : NameProblem} (htable : catalog.table? schema object = none)
      (hview : catalog.view? schema object = none)
      (hfault : problem.fault =
        if (catalog.schema? schema).isSome then .noObject schema object else .noSchema schema) :
      StandsFor catalog schema object (.notFound problem, [])

variable {catalog : Catalog} {schema object : String} {outcome : Lookup Query × List BaseTable}

theorem StandsFor.not_isAmbiguous (h : catalog.StandsFor schema object outcome) :
    ¬outcome.1.isAmbiguous := by
  cases h with
  | table _ => exact Bool.false_ne_true
  | view _ _ => exact Bool.false_ne_true
  | missing _ _ _ => exact Bool.false_ne_true

end Catalog

/-- What a level has besides its clauses. -/
def Level.declarations (level : Level) : Dictionary Query × SuggestionConfig :=
  (level.ctes, level.config)

namespace Scope

variable {catalog : Catalog} {schema object : String} {query : Query} {level next : Level}
  {inner outer enclosing : List Level}

/-- What is looked up in a schema is what the catalog says. -/
theorem standsFor_schemaObject (catalog : Catalog) (config : SuggestionConfig)
    (schema object : String) :
    catalog.StandsFor schema object (schemaObject catalog config schema object) := by
  unfold schemaObject
  cases hschema : catalog.schema? schema with
  | none =>
    have hobject : catalog.object? schema object = none := by
      rw [Catalog.object?, hschema, Option.bind_none]
    obtain ⟨htable, hview⟩ := (Catalog.object?_eq_none_iff catalog schema object).mp hobject
    exact .missing htable hview (by simp [hschema])
  | some found =>
    have hobject : catalog.object? schema object = found.object? object := by
      rw [Catalog.object?, hschema, Option.bind_some]
    dsimp only
    cases hfound : found.object? object with
    | none =>
      obtain ⟨htable, hview⟩ :=
        (Catalog.object?_eq_none_iff catalog schema object).mp (hobject.trans hfound)
      exact .missing htable hview (by simp [hschema])
    | some stored =>
      cases stored with
      | table table =>
        have htable := @Catalog.object?_eq_table_iff catalog ⟨schema, object⟩ table
        exact .table (htable.mp (hobject.trans hfound))
      | view view =>
        have hview : catalog.ViewAt ⟨schema, object⟩ view :=
          Catalog.object?_eq_view_iff.mp (hobject.trans hfound)
        obtain ⟨walk, hwalk⟩ := catalog.exists_walked schema view
        simp only [hwalk.baseTables_eq]
        exact .view hview hwalk

/-! ## Names without schema -/

theorem unqualifiedTable_of_declared (h : level.ctes.get? object = some query) :
    unqualifiedTable catalog level enclosing object = (.found query, []) := by
  unfold unqualifiedTable
  rw [h]

theorem unqualifiedTable_cons (h : level.ctes.get? object = none) :
    unqualifiedTable catalog level (next :: enclosing) object =
      unqualifiedTable catalog next enclosing object := by
  rw [unqualifiedTable, h]

/-- Levels that do not declare the name are passed over. -/
theorem unqualifiedTable_append {first : Level}
    (hinner : ∀ l ∈ first :: inner, l.ctes.get? object = none) :
    unqualifiedTable catalog first (inner ++ level :: outer) object =
      unqualifiedTable catalog level outer object := by
  induction inner generalizing first with
  | nil => exact unqualifiedTable_cons (hinner first List.mem_cons_self)
  | cons second inner ih =>
    rw [List.cons_append, unqualifiedTable_cons (hinner first List.mem_cons_self)]
    exact ih fun l hl => hinner l (List.mem_cons_of_mem first hl)

/-- A name that no level declares is looked for in the default schema. -/
theorem unqualifiedTable_of_undeclared (catalog : Catalog)
    (h : ∀ l ∈ level :: enclosing, l.ctes.get? object = none) :
    ∃ config, unqualifiedTable catalog level enclosing object =
      schemaObject catalog config catalog.defaultSchema object := by
  induction enclosing generalizing level with
  | nil =>
    refine ⟨level.config, ?_⟩
    rw [unqualifiedTable, h level List.mem_cons_self]
  | cons second enclosing ih =>
    rw [unqualifiedTable_cons (h level List.mem_cons_self)]
    exact ih fun l hl => h l (List.mem_cons_of_mem level hl)

/-- The common table expression that a name without schema stands for, if there is one. -/
def declared? (scope : Scope) (object : String) : Option Query :=
  scope.levels.findSome? (·.ctes.get? object)

/-- The level of the query that stands in no other one. -/
def outermost (scope : Scope) : Level := scope.enclosing.getLastD scope.innermost

/-- A declared name stands for what it was declared as, and any other is looked for in the default
schema, with the settings of the outermost level. -/
theorem table_unqualified (scope : Scope) (object : String) :
    scope.table ⟨none, object⟩ =
      match scope.declared? object with
      | some query => (.found query, [])
      | none =>
        schemaObject scope.catalog scope.outermost.config scope.catalog.defaultSchema object := by
  obtain ⟨catalog, level, enclosing⟩ := scope
  show unqualifiedTable catalog level enclosing object = _
  unfold declared? outermost levels
  dsimp only
  induction enclosing generalizing level with
  | nil =>
    rw [unqualifiedTable, List.findSome?_cons]
    cases level.ctes.get? object with
    | some query => rfl
    | none => rfl
  | cons second enclosing ih =>
    rw [unqualifiedTable, List.findSome?_cons]
    cases level.ctes.get? object with
    | some query => rfl
    | none =>
      dsimp only
      rw [ih second, List.getLastD_cons]

theorem not_isAmbiguous_unqualifiedTable (catalog : Catalog) (level : Level)
    (enclosing : List Level) (object : String) :
    ¬(unqualifiedTable catalog level enclosing object).1.isAmbiguous := by
  induction enclosing generalizing level with
  | nil =>
    cases h : level.ctes.get? object with
    | some query =>
      rw [unqualifiedTable_of_declared h]
      exact Bool.false_ne_true
    | none =>
      rw [unqualifiedTable, h]
      exact (standsFor_schemaObject ..).not_isAmbiguous
  | cons second enclosing ih =>
    cases h : level.ctes.get? object with
    | some query =>
      rw [unqualifiedTable_of_declared h]
      exact Bool.false_ne_true
    | none =>
      rw [unqualifiedTable_cons h]
      exact ih second

/-- Only what the levels declare counts, and the settings for suggestions. -/
theorem unqualifiedTable_congr {level' : Level} {enclosing' : List Level}
    (h : (level :: enclosing).map Level.declarations =
      (level' :: enclosing').map Level.declarations) :
    unqualifiedTable catalog level enclosing object =
      unqualifiedTable catalog level' enclosing' object := by
  induction enclosing generalizing level level' enclosing' with
  | nil =>
    obtain ⟨hlevel, hrest⟩ := List.cons.inj h
    obtain ⟨hctes, hconfig⟩ := Prod.mk.inj hlevel
    obtain rfl := List.map_eq_nil_iff.mp hrest.symm
    rw [unqualifiedTable, unqualifiedTable, hctes, hconfig]
  | cons second rest ih =>
    obtain ⟨hlevel, hrest⟩ := List.cons.inj h
    obtain ⟨hctes, -⟩ := Prod.mk.inj hlevel
    cases enclosing' with
    | nil => cases hrest
    | cons second' rest' => rw [unqualifiedTable, unqualifiedTable, hctes, ih hrest]

theorem table_congr {scope other : Scope} (hcatalog : other.catalog = scope.catalog)
    (hlevels : other.levels.map Level.declarations = scope.levels.map Level.declarations)
    (name : ObjectName) : other.table name = scope.table name := by
  unfold table
  rw [hcatalog]
  cases name.schema with
  | none => exact unqualifiedTable_congr hlevels
  | some schema =>
    obtain ⟨hinnermost, -⟩ := List.cons.inj hlevels
    have hconfig : other.innermost.config = scope.innermost.config := (Prod.mk.inj hinnermost).2
    simp only [hconfig]

/-- The innermost level that declares a name decides. -/
theorem table_of_declared (scope : Scope) (hlevels : scope.levels = inner ++ level :: outer)
    (hinner : ∀ l ∈ inner, l.ctes.get? object = none)
    (hlevel : level.ctes.get? object = some query) :
    scope.table ⟨none, object⟩ = (.found query, []) := by
  show unqualifiedTable scope.catalog scope.innermost scope.enclosing object = _
  cases inner with
  | nil =>
    obtain ⟨hfirst, -⟩ := List.cons.inj hlevels
    rw [hfirst, unqualifiedTable_of_declared hlevel]
  | cons first inner =>
    obtain ⟨hfirst, henclosing⟩ := List.cons.inj (hlevels.trans List.cons_append)
    rw [hfirst, henclosing, unqualifiedTable_append hinner, unqualifiedTable_of_declared hlevel]

/-- What a table name stands for at any depth. A name without schema stands for the common table
expression of the innermost level that declares it, and then no table is touched; if no level does,
it stands for what it names in the default schema. A name with a schema stands for what it names
there, whatever the levels declare. It is never ambiguous, and the FROM clauses and SELECT lists of
the levels play no part. -/
theorem table_eq_declared (scope : Scope) (object : String) :
    (∀ inner level outer query, scope.levels = inner ++ level :: outer →
      (∀ l ∈ inner, l.ctes.get? object = none) → level.ctes.get? object = some query →
      scope.table ⟨none, object⟩ = (.found query, [])) ∧
    ((∀ level ∈ scope.levels, level.ctes.get? object = none) →
      scope.catalog.StandsFor scope.catalog.defaultSchema object
        (scope.table ⟨none, object⟩)) ∧
    (∀ schema, scope.catalog.StandsFor schema object (scope.table ⟨some schema, object⟩)) ∧
    ∀ schema, ¬(scope.table ⟨schema, object⟩).1.isAmbiguous ∧
      ∀ other : Scope, other.catalog = scope.catalog →
        other.levels.map Level.declarations = scope.levels.map Level.declarations →
        other.table ⟨schema, object⟩ = scope.table ⟨schema, object⟩ := by
  have hqualified : ∀ schema, scope.catalog.StandsFor schema object
      (scope.table ⟨some schema, object⟩) :=
    fun schema => standsFor_schemaObject scope.catalog scope.innermost.config schema object
  refine ⟨?declared, ?undeclared, hqualified, fun schema => ⟨?ambiguous, ?clauses⟩⟩
  case declared =>
    intro inner level outer query hlevels hinner hlevel
    exact scope.table_of_declared hlevels hinner hlevel
  case undeclared =>
    intro hnone
    obtain ⟨config, hconfig⟩ := unqualifiedTable_of_undeclared scope.catalog hnone
    show scope.catalog.StandsFor _ object
      (unqualifiedTable scope.catalog scope.innermost scope.enclosing object)
    rw [hconfig]
    exact standsFor_schemaObject scope.catalog config scope.catalog.defaultSchema object
  case ambiguous =>
    cases schema with
    | none =>
      exact not_isAmbiguous_unqualifiedTable scope.catalog scope.innermost scope.enclosing object
    | some schema => exact (hqualified schema).not_isAmbiguous
  case clauses =>
    intro other hcatalog hlevels
    exact table_congr hcatalog hlevels ⟨schema, object⟩

/-- Two of three levels declare `t`, which is also a table; a table hides the view `u`. -/
theorem table_eq_declared_of_nested :
    let column : QueryColumn := { name := "x", type := .column (.notNull .integer) }
    let id : QueryColumn :=
      { source := some "t", name := "id", type := .column (.notNull .integer), primaryKey := true }
    let t : Table := ({ name := "t" } : Table).withPrimaryKey "id" (.notNull .integer)
    let catalog : Catalog := ((Catalog.new "main").withTable t).withTable { name := "u" }
      |>.withView { name := "u", references := [⟨none, "t"⟩] }
    let scope : Scope :=
      { catalog := catalog
        enclosing := [{ ctes := .ofList [("t", ⟨[column]⟩)] }, { ctes := .ofList [("t", {})] }] }
    scope.table ⟨none, "t"⟩ = (.found ⟨[column]⟩, []) ∧
      scope.table ⟨some "main", "t"⟩ = (.found ⟨[id]⟩, [⟨⟨"main", "t"⟩, t⟩]) ∧
      scope.table ⟨none, "u"⟩ = (.found {}, [⟨⟨"main", "u"⟩, { name := "u" }⟩]) ∧
      (scope.table ⟨none, "gone"⟩).1.isNotFound := by
  intro column id t catalog scope
  let empty : Level := {}
  have hlevels : scope.levels = [empty] ++ { ctes := .ofList [("t", ⟨[column]⟩)] } ::
      [{ ctes := .ofList [("t", {})] }] := rfl
  have hpassed : ∀ l ∈ [empty], l.ctes.get? "t" = none := by simp [empty]
  have hundeclared : ∀ object, object ≠ "t" →
      ∀ level ∈ scope.levels, level.ctes.get? object = none := by
    intro object hobject
    rw [hlevels]
    simp [empty, Dictionary.ofList, Dictionary.get?_insert, hobject]
  refine ⟨?_, ?_, ?_, ?_⟩
  · exact (table_eq_declared scope "t").1 _ _ _ _ hlevels hpassed rfl
  · have hstored : catalog.table? "main" "t" = some t := by decide +kernel
    have h := (table_eq_declared scope "t").2.2.1 "main"
    generalize scope.table ⟨some "main", "t"⟩ = outcome at h ⊢
    cases h with
    | table htable => cases htable.symm.trans hstored; rfl
    | view hview _ => cases hview.1.symm.trans hstored
    | missing htable _ _ => cases htable.symm.trans hstored
  · have hstored : catalog.table? "main" "u" = some { name := "u" } := by decide +kernel
    have h := (table_eq_declared scope "u").2.1 (hundeclared "u" (by decide))
    generalize scope.table ⟨none, "u"⟩ = outcome at h ⊢
    cases h with
    | table htable => cases htable.symm.trans hstored; rfl
    | view hview _ => cases hview.1.symm.trans hstored
    | missing htable _ _ => cases htable.symm.trans hstored
  · have hstored : catalog.table? "main" "gone" = none ∧ catalog.view? "main" "gone" = none := by
      constructor <;> decide +kernel
    have h := (table_eq_declared scope "gone").2.1 (hundeclared "gone" (by decide))
    generalize scope.table ⟨none, "gone"⟩ = outcome at h ⊢
    cases h with
    | table htable => cases htable.symm.trans hstored.1
    | view hview _ => cases hview.2.symm.trans hstored.2
    | missing _ _ _ => rfl

end Scope

end QueryTyping
