import QueryTyping.Inference.Context
import QueryTyping.Catalog.Validation
import QueryTyping.Scope.Tables
import QueryTyping.Scope.Columns
import QueryTyping.Json.Reader
import QueryTyping.Json.Printer
import QueryTyping.Encoding.Queries
import QueryTyping.Encoding.Catalogs
import QueryTyping.Yaml.Reader
import QueryTyping.Catalog.Definition
import QueryTyping.Catalog.Source
import QueryTyping.Expectation
import QueryTyping.Proofs.Inference.Loops
import QueryTyping.Proofs.Inference.Failure
import QueryTyping.Proofs.Inference.Narrowing
import QueryTyping.Proofs.Inference.Nullability
import QueryTyping.Proofs.Inference.Separation
import QueryTyping.Proofs.Scope.Dependencies
import QueryTyping.Proofs.Scope.MissingReferences
import QueryTyping.Proofs.Scope.Columns
import QueryTyping.Proofs.Scope.Sources
import QueryTyping.Proofs.Scope.Tables
import QueryTyping.Proofs.Inference.Permutation
import QueryTyping.Proofs.Inference.Symmetry
import QueryTyping.Proofs.Scope.Suggestions
import QueryTyping.Proofs.Scope.Settings
import QueryTyping.Proofs.Catalog.ViewNames
import QueryTyping.Proofs.Scope.RecordedNames
import QueryTyping.Proofs.Inference.FrontEnd
import QueryTyping.Proofs.Catalog.Building
import QueryTyping.Proofs.Catalog.Reloading
import QueryTyping.Proofs.Inference.Batch
import QueryTyping.Proofs.Inference.Parameters
import QueryTyping.Proofs.Inference.Freshness
import QueryTyping.Proofs.Encoding.Forms
import QueryTyping.Proofs.Inference.Compatibility
import QueryTyping.Proofs.Inference.Writes
import QueryTyping.Proofs.Text.EditDistance
import QueryTyping.Proofs.Text.Ranking
import QueryTyping.Proofs.Inference.Layers
import QueryTyping.Proofs.Inference.Preference
import QueryTyping.Proofs.Inference.Repetition
import QueryTyping.Proofs.Text.Affinity
import QueryTyping.Proofs.Inference.Expansion
import QueryTyping.Proofs.Inference.Intersection
