import QueryTyping.Catalog.Sample
import QueryTyping.Catalog.Validation

/-!
# Where catalogs come from

A source hands out a catalog when it is asked for one, or says why it cannot. A source over a
given catalog checks it first. A stand-in source takes the place of a real one where look-ups are
tried out: it holds whatever catalog it was given, and fails on demand.
-/

namespace QueryTyping

/-- A place from which a catalog is loaded. -/
structure CatalogSource where
  /-- What loading yields. -/
  load : Except CatalogError Catalog

namespace CatalogSource

/-- The source of a given catalog, which must be valid. -/
def ofCatalog (catalog : Catalog) : Except CatalogError CatalogSource := do
  catalog.validate
  return ⟨.ok catalog⟩

/-- The tables of a schema, in ascending order of their names. -/
def listTables (source : CatalogSource) (schema : String) : Except CatalogError (List Table) := do
  match (← source.load).schema? schema with
  | some found => return found.tables.values
  | none => .error (.invalidSchema schema)

end CatalogSource

/-- A source that takes the place of a real one. -/
structure StandIn where
  /-- What loading yields, unless it fails. -/
  catalog : Catalog := .new "main"
  /-- Why loading fails. -/
  failure : Option CatalogError := none

namespace StandIn

/-- The same stand-in with another catalog. -/
def modifyCatalog (standIn : StandIn) (f : Catalog → Catalog) : StandIn :=
  { standIn with catalog := f standIn.catalog }

/-- Holds the sample catalog in place of what was held before. -/
def withSample (standIn : StandIn) : StandIn := { standIn with catalog := .sample }

/-- Lets loading fail. -/
def failingWith (standIn : StandIn) (error : CatalogError) : StandIn :=
  { standIn with failure := some error }

/-- The stand-in as a source. -/
def source (standIn : StandIn) : CatalogSource where
  load :=
    match standIn.failure with
    | some error => .error error
    | none => .ok standIn.catalog

end StandIn

end QueryTyping
