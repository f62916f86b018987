import Blockwork.Build.Load
import Blockwork.Build.Progress
import Blockwork.Build.Run
import Blockwork.Build.Timings
import Blockwork.Cache
import Blockwork.Cache.Entry
import Blockwork.Cache.Sha256
import Blockwork.Clock.Duration
import Blockwork.Clock.Instant
import Blockwork.Command.Flags
import Blockwork.Command.Invocation
import Blockwork.Command.Number
import Blockwork.Command.Request
import Blockwork.Command.Run
import Blockwork.Failure
import Blockwork.Failure.Kind
import Blockwork.Files.Disk
import Blockwork.Files.Path
import Blockwork.Files.Pattern
import Blockwork.Json.Quoted
import Blockwork.Llvm.Artifact
import Blockwork.Llvm.Backend
import Blockwork.Llvm.Emit
import Blockwork.Llvm.Module
import Blockwork.Llvm.Text
import Blockwork.Main
import Blockwork.MessagePack
import Blockwork.MessagePack.Record
import Blockwork.Numeric.Binary64
import Blockwork.Program.Access
import Blockwork.Program.Completeness
import Blockwork.Program.Consistency
import Blockwork.Program.Construction
import Blockwork.Program.Context
import Blockwork.Program.Function
import Blockwork.Program.Listing
import Blockwork.Program.Lowering
import Blockwork.Program.Name
import Blockwork.Program.Operation
import Blockwork.Program.Operator
import Blockwork.Program.Sample
import Blockwork.Program.Store
import Blockwork.Project.Manifest
import Blockwork.Proofs.ArenaView
import Blockwork.Session
import Blockwork.Snapshot.Basic
import Blockwork.Snapshot.Codec
import Blockwork.Snapshot.Restore
import Blockwork.Snapshot.Take
import Blockwork.Source.Grammar
import Blockwork.Source.Numeral
import Blockwork.Source.Reader
import Blockwork.Source.Snippet
import Blockwork.Source.Token
import Blockwork.Source.Traced
import Blockwork.Storage.Arena
import Blockwork.Text.Bytes
import Blockwork.Text.Case
import Blockwork.Text.CharClass
import Blockwork.Text.Cluster
import Blockwork.Text.Cluster.Table
import Blockwork.Text.Glyph
import Blockwork.Text.Lead
import Blockwork.Text.Normal
import Blockwork.Text.Normal.Table
import Blockwork.Text.Printable
import Blockwork.Text.Quoted
import Blockwork.Text.Terminal
import Blockwork.Text.Width
import Blockwork.Toml.Document
import Blockwork.Toml.Scalar
import Blockwork.Toml.Statement
import Blockwork.Trace.Event
import Blockwork.Trace.Journal
import Blockwork.Trace.Level
import Blockwork.Trace.Ring
import Blockwork.Trace.Tracer
import Blockwork.Typing.Descriptor
import Blockwork.Typing.Interner
import Blockwork.Version
import Blockwork.View.Choice
import Blockwork.View.Model
import Blockwork.Proofs.Interning
import Blockwork.Proofs.Steps
import Blockwork.Proofs.Order
import Blockwork.Proofs.Decoding
import Blockwork.Proofs.Observation
import Blockwork.Proofs.Rebuild
import Blockwork.Proofs.Restoring
import Blockwork.Proofs.Packing
import Blockwork.Proofs.SnapshotBytes
import Blockwork.Proofs.SnapshotRoundTrip
import Blockwork.Proofs.Lexing
import Blockwork.Proofs.Words
import Blockwork.Proofs.Phrases
import Blockwork.Proofs.PhraseReading
import Blockwork.Proofs.Rereading
import Blockwork.Proofs.TextRoundTrip
import Blockwork.Proofs.Flags
import Blockwork.Proofs.Economy
import Blockwork.Proofs.Addressing
import Blockwork.Proofs.PathEnds
import Blockwork.Proofs.Paths
import Blockwork.Proofs.Disks
import Blockwork.Proofs.CacheFiles
import Blockwork.Proofs.Walks
import Blockwork.Proofs.EntryBytes
import Blockwork.Proofs.Shelves
import Blockwork.Proofs.CacheCalls
import Blockwork.Proofs.Tracing
import Blockwork.Proofs.Loading
import Blockwork.Proofs.CacheTransparency
import Blockwork.Proofs.Growth
import Blockwork.Proofs.Translation
import Blockwork.Proofs.Emission
import Blockwork.Proofs.Reports
import Blockwork.Proofs.Refusal
import Blockwork.Proofs.Language
import Blockwork.Proofs.LineReading
import Blockwork.Proofs.Gathering
import Blockwork.Proofs.Replaying
import Blockwork.Proofs.Declaring
import Blockwork.Proofs.Acceptance
import Blockwork.Proofs.Assembly
import Blockwork.Proofs.Attempts
import Blockwork.Proofs.Fidelity
import Blockwork.Proofs.Rewording
import Blockwork.Proofs.Reprinting
import Blockwork.Proofs.Kinds
import Blockwork.Proofs.Cancellation
import Blockwork.Proofs.Verdicts
import Blockwork.Proofs.Protocol
import Blockwork.Proofs.Brackets
import Blockwork.Proofs.Nesting
import Blockwork.Proofs.Outputs
import Blockwork.Proofs.Revisions
import Blockwork.Proofs.Making
import Blockwork.Proofs.Independence
import Blockwork.Proofs.Closing
import Blockwork.Proofs.Handover
import Blockwork.Proofs.Lifecycle
import Blockwork.Proofs.Isolation
import Blockwork.Proofs.Agreement
import Blockwork.Proofs.Interleaving
import Blockwork.Proofs.Legality
import Blockwork.Proofs.Omissions
import Blockwork.Proofs.Pointing
import Blockwork.Proofs.Locating
import Blockwork.Proofs.Unguarded
import Blockwork.Proofs.Places
import Blockwork.Proofs.Rows
import Blockwork.Proofs.Recency
import Blockwork.Proofs.Numbering
import Blockwork.Proofs.Registry
import Blockwork.Proofs.Scanning
import Blockwork.Proofs.Naming
import Blockwork.Proofs.Flattening
