import ServiceContract.Binary64.Basic
import ServiceContract.Binary64.Decimal
import ServiceContract.Binary64.Scaling
import ServiceContract.Boundary.Bindings
import ServiceContract.Boundary.Client
import ServiceContract.Boundary.Configuration
import ServiceContract.Boundary.EntryPoint
import ServiceContract.Boundary.Envelope
import ServiceContract.Boundary.MessageEntryPoint
import ServiceContract.Contract
import ServiceContract.Digest.Sha256
import ServiceContract.Document.Directory
import ServiceContract.Document.Key
import ServiceContract.Document.Outline
import ServiceContract.Document.Resolution
import ServiceContract.Document.Store
import ServiceContract.Error
import ServiceContract.Interface.Basic
import ServiceContract.Interface.Fingerprint
import ServiceContract.Interface.Identifiers
import ServiceContract.Interface.Inhabited
import ServiceContract.Json.Lexeme
import ServiceContract.Json.Number
import ServiceContract.Json.Printer
import ServiceContract.Json.Reader
import ServiceContract.Json.Value
import ServiceContract.Naming
import ServiceContract.Pattern.Basic
import ServiceContract.Pattern.CharacterClass
import ServiceContract.Pattern.Expression
import ServiceContract.Pattern.Flags
import ServiceContract.Pattern.Footprint
import ServiceContract.Pattern.Machine
import ServiceContract.Pattern.Reader
import ServiceContract.Proofs.Binary64.Nearest
import ServiceContract.Proofs.Binary64.Rounding
import ServiceContract.Proofs.Binary64.Scaling
import ServiceContract.Proofs.Boundary.Batches
import ServiceContract.Proofs.Boundary.Calls
import ServiceContract.Proofs.Boundary.Configuration
import ServiceContract.Proofs.Boundary.Envelopes
import ServiceContract.Proofs.Boundary.InProcess
import ServiceContract.Proofs.Boundary.Payloads
import ServiceContract.Proofs.Boundary.RoundTrip
import ServiceContract.Proofs.Boundary.Routing
import ServiceContract.Proofs.Boundary.Scopes
import ServiceContract.Proofs.Boundary.Sending
import ServiceContract.Proofs.Boundary.Serving
import ServiceContract.Proofs.Document.Answers
import ServiceContract.Proofs.Document.Borrowing
import ServiceContract.Proofs.Document.Catalogue
import ServiceContract.Proofs.Document.Chains
import ServiceContract.Proofs.Document.Check
import ServiceContract.Proofs.Document.Circles
import ServiceContract.Proofs.Document.Comparison
import ServiceContract.Proofs.Document.Declarations
import ServiceContract.Proofs.Document.Endless
import ServiceContract.Proofs.Document.Faults
import ServiceContract.Proofs.Document.FileKeys
import ServiceContract.Proofs.Document.FileTree
import ServiceContract.Proofs.Document.Fragments
import ServiceContract.Proofs.Document.Graph
import ServiceContract.Proofs.Document.Headers
import ServiceContract.Proofs.Document.History
import ServiceContract.Proofs.Document.Identifiers
import ServiceContract.Proofs.Document.Identity
import ServiceContract.Proofs.Document.Inhabitants
import ServiceContract.Proofs.Document.Keeping
import ServiceContract.Proofs.Document.Links
import ServiceContract.Proofs.Document.Loading
import ServiceContract.Proofs.Document.Local
import ServiceContract.Proofs.Document.Meaning
import ServiceContract.Proofs.Document.Nodes
import ServiceContract.Proofs.Document.Origins
import ServiceContract.Proofs.Document.Places
import ServiceContract.Proofs.Document.Reached
import ServiceContract.Proofs.Document.Rearrangement
import ServiceContract.Proofs.Document.Resolution
import ServiceContract.Proofs.Document.Resolvable
import ServiceContract.Proofs.Document.Rules
import ServiceContract.Proofs.Document.Sites
import ServiceContract.Proofs.Document.StableKeys
import ServiceContract.Proofs.Document.Stack
import ServiceContract.Proofs.Document.Standalone
import ServiceContract.Proofs.Document.Stateless
import ServiceContract.Proofs.Document.Store
import ServiceContract.Proofs.Document.Unchecked
import ServiceContract.Proofs.Document.Unfolding
import ServiceContract.Proofs.Document.WellFormed
import ServiceContract.Proofs.Document.Wiring
import ServiceContract.Proofs.Interface.Avoidance
import ServiceContract.Proofs.Interface.Canonical
import ServiceContract.Proofs.Interface.Endless
import ServiceContract.Proofs.Interface.Identifiers
import ServiceContract.Proofs.Interface.Spelling
import ServiceContract.Proofs.Json.Grammar
import ServiceContract.Proofs.Json.Lexing
import ServiceContract.Proofs.Json.NumberText
import ServiceContract.Proofs.Json.Reading
import ServiceContract.Proofs.Json.Rereading
import ServiceContract.Proofs.Json.StringText
import ServiceContract.Proofs.Json.Uniqueness
import ServiceContract.Proofs.Json.Utf8
import ServiceContract.Proofs.Json.ValueText
import ServiceContract.Proofs.Mirroring
import ServiceContract.Proofs.Pairing
import ServiceContract.Proofs.Reference
import ServiceContract.Proofs.Runs
import ServiceContract.Proofs.Schema.Choices
import ServiceContract.Proofs.Schema.Denoting
import ServiceContract.Proofs.Schema.Following
import ServiceContract.Proofs.Schema.Locating
import ServiceContract.Proofs.Schema.Mirroring
import ServiceContract.Proofs.Schema.RawSchema
import ServiceContract.Proofs.Schema.Reading
import ServiceContract.Proofs.Schema.Relocation
import ServiceContract.Proofs.Schema.Rewriting
import ServiceContract.Proofs.Schema.Satisfaction
import ServiceContract.Proofs.Table
import ServiceContract.Proofs.Text.ByteOrder
import ServiceContract.Proofs.Text.Pieces
import ServiceContract.Proofs.Validation.Admission
import ServiceContract.Proofs.Validation.Chains
import ServiceContract.Proofs.Validation.Conformance
import ServiceContract.Proofs.Validation.Depth
import ServiceContract.Proofs.Validation.Equality
import ServiceContract.Proofs.Validation.EqualityLaws
import ServiceContract.Proofs.Validation.FirstFault
import ServiceContract.Proofs.Validation.Inhabitants
import ServiceContract.Proofs.Validation.Lookups
import ServiceContract.Proofs.Validation.NumberOrder
import ServiceContract.Proofs.Validation.Reordering
import ServiceContract.Proofs.Validation.Selection
import ServiceContract.Proofs.Validation.Verdicts
import ServiceContract.Proofs.Validation.Violations
import ServiceContract.Reference
import ServiceContract.Schema.Basic
import ServiceContract.Schema.Description
import ServiceContract.Schema.Finite
import ServiceContract.Schema.Reading
import ServiceContract.Schema.Relocation
import ServiceContract.Text.Blank
import ServiceContract.Text.Duration
import ServiceContract.Text.NameOrder
import ServiceContract.Unicode.Age
import ServiceContract.Unicode.ByteSequences
import ServiceContract.Unicode.CaseFolding
import ServiceContract.Unicode.CodePoints
import ServiceContract.Unicode.GeneralCategory
import ServiceContract.Unicode.Property
import ServiceContract.Unicode.Script
import ServiceContract.Unicode.Segmentation
import ServiceContract.Validation
import ServiceContract.Version
