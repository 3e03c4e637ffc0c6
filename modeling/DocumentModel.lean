import DocumentModel.Bundle
import DocumentModel.Database
import DocumentModel.Json.Reader
import DocumentModel.Main
import DocumentModel.Proofs.Class.Registries
import DocumentModel.Proofs.Compile.Cycles
import DocumentModel.Proofs.Compile.Failures
import DocumentModel.Proofs.Compile.IndexPaths
import DocumentModel.Proofs.Compile.Inheritance
import DocumentModel.Proofs.Compile.LastWrites
import DocumentModel.Proofs.Compile.Passages
import DocumentModel.Proofs.Compile.Relocation
import DocumentModel.Proofs.Database.Calls
import DocumentModel.Proofs.Database.Ensuring
import DocumentModel.Proofs.Document.Absence
import DocumentModel.Proofs.Document.Collapse
import DocumentModel.Proofs.Document.Cuids
import DocumentModel.Proofs.Document.Details
import DocumentModel.Proofs.Document.Enumerations
import DocumentModel.Proofs.Document.Exclusions
import DocumentModel.Proofs.Document.Ids
import DocumentModel.Proofs.Document.Intersections
import DocumentModel.Proofs.Document.Lengths
import DocumentModel.Proofs.Document.Lists
import DocumentModel.Proofs.Document.Markers
import DocumentModel.Proofs.Document.Nullable
import DocumentModel.Proofs.Document.ReadPath
import DocumentModel.Proofs.Document.Refusals
import DocumentModel.Proofs.Document.Required
import DocumentModel.Proofs.Document.Sets
import DocumentModel.Proofs.Document.Stored
import DocumentModel.Proofs.Document.WritePath
import DocumentModel.Proofs.Schema.Commuting
import DocumentModel.Proofs.Schema.Edits
import DocumentModel.Proofs.Schema.IntegerBounds
import DocumentModel.Proofs.Schema.IssuePlaces
import DocumentModel.Proofs.Schema.Pruning
import DocumentModel.Proofs.Schema.Settling
import DocumentModel.Schema.Equality
import DocumentModel.Schema.Written
