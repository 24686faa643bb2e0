import QueryTyping.FromClause
import QueryTyping.Suggestion

/-!
# Scopes

A query inside a query sees the names of the queries around it. A scope is a catalog and the
levels of the nesting, innermost first. A level holds the common table expressions, the FROM
clause and the SELECT list of one query, as far as they are known, and the settings for
suggestions; a new level starts with the settings of the level around it and with nothing else.
-/

namespace QueryTyping

/-- What one query adds to the names that can be seen. -/
structure Level where
  /-- The common table expressions, by name. -/
  ctes : Dictionary Query := .empty
  /-- The FROM clause, once it is read. -/
  fromClause : Option FromClause := none
  /-- The SELECT list, where its names can be referred to. -/
  selectList : Option Query := none
  /-- How names are suggested in look-ups from here. -/
  config : SuggestionConfig := {}
  deriving DecidableEq

/-- What a query can refer to. -/
structure Scope where
  catalog : Catalog
  /-- The level of the query itself. -/
  innermost : Level := {}
  /-- The levels of the queries around it, innermost first. -/
  enclosing : List Level := []
  deriving DecidableEq

namespace Scope

/-- The scope of a query that stands on its own. -/
def root (catalog : Catalog) : Scope := { catalog }

/-- All levels, innermost first. -/
def levels (scope : Scope) : List Level := scope.innermost :: scope.enclosing

/-- How many queries stand around this one. -/
def depth (scope : Scope) : Nat := scope.enclosing.length

/-- The scope of a query inside this one. -/
def child (scope : Scope) : Scope :=
  { scope with
    innermost := { config := scope.innermost.config }
    enclosing := scope.levels }

/-- The scope of the query around this one. -/
def parent? (scope : Scope) : Option Scope :=
  match scope.enclosing with
  | [] => none
  | level :: rest => some { scope with innermost := level, enclosing := rest }

/-- Changes the innermost level. -/
def modifyInnermost (scope : Scope) (f : Level → Level) : Scope :=
  { scope with innermost := f scope.innermost }

/-- The same scope with other settings for suggestions. -/
def withConfig (scope : Scope) (config : SuggestionConfig) : Scope :=
  scope.modifyInnermost ({ · with config })

/-- The same scope with a FROM clause. -/
def withFromClause (scope : Scope) (clause : FromClause) : Scope :=
  scope.modifyInnermost ({ · with fromClause := some clause })

/-- The same scope with a SELECT list, or without one. -/
def withSelectList (scope : Scope) (list : Option Query) : Scope :=
  scope.modifyInnermost ({ · with selectList := list })

/-- Declares a common table expression, whose name must be new in this query. The scope that is
left stands beside the answer. -/
def addCte (scope : Scope) (name : String) (query : Query) : Except TypeError Unit × Scope :=
  if scope.innermost.ctes.contains name then (.error (.duplicateSource name), scope)
  else
    (.ok (), scope.modifyInnermost fun level => { level with ctes := level.ctes.insert name query })

end Scope

end QueryTyping
