import StagedRecords.NullFree
import StagedRecords.Document
import StagedRecords.Session
import StagedRecords.Catalogue
import StagedRecords.Logging.Logger
import StagedRecords.Proofs.Sorted
import StagedRecords.Proofs.DateText
import StagedRecords.Proofs.UuidText
import StagedRecords.Proofs.Reading
import StagedRecords.Proofs.Slots
import StagedRecords.Proofs.Writes
import StagedRecords.Proofs.Runs
import StagedRecords.Proofs.Codecs
import StagedRecords.Proofs.Documents
import StagedRecords.Proofs.Resolution
import StagedRecords.Proofs.Builds
import StagedRecords.Proofs.Records
import StagedRecords.Proofs.RoundTrip
import StagedRecords.Proofs.Contract
import StagedRecords.Proofs.History
import StagedRecords.Proofs.NamedWrites
import StagedRecords.Proofs.TypedWrites
import StagedRecords.Proofs.Edits
import StagedRecords.Proofs.Objects
import StagedRecords.Proofs.Specs
import StagedRecords.Proofs.Readiness
import StagedRecords.Proofs.Overrides
import StagedRecords.Proofs.Interleavings
import StagedRecords.Proofs.Events
import StagedRecords.Proofs.Freezing
import StagedRecords.Proofs.Elements
import StagedRecords.Proofs.Strictness
import StagedRecords.Proofs.Wrapping
import StagedRecords.Proofs.Unwrapping
import StagedRecords.Proofs.Nesting
import StagedRecords.Proofs.Initialisation
import StagedRecords.Proofs.NullSearch
import StagedRecords.Proofs.Reconstruction
import StagedRecords.Proofs.LetterCase
import StagedRecords.Proofs.Environment
import StagedRecords.Proofs.Messages
