import SqlCompose.Bytes
import SqlCompose.Calendar
import SqlCompose.Cond
import SqlCompose.Config
import SqlCompose.Config.Document
import SqlCompose.Digest.SipHash
import SqlCompose.Error
import SqlCompose.Error.Document
import SqlCompose.Event
import SqlCompose.Executor
import SqlCompose.Executor.Driver
import SqlCompose.Executor.Playback
import SqlCompose.Float.Binary
import SqlCompose.Float.Shortest
import SqlCompose.Json.Access
import SqlCompose.Json.Basic
import SqlCompose.Json.Number
import SqlCompose.Json.Printer
import SqlCompose.Json.Reader
import SqlCompose.KeyMap
import SqlCompose.Pool.Basic
import SqlCompose.Pool.Lending
import SqlCompose.Pool.Release
import SqlCompose.Postgres.Client
import SqlCompose.Postgres.DataType
import SqlCompose.Postgres.Decode
import SqlCompose.Postgres.Encode
import SqlCompose.Postgres.Registry
import SqlCompose.Postgres.Script
import SqlCompose.Postgres.Server
import SqlCompose.Record
import SqlCompose.Record.Schema
import SqlCompose.Row
import SqlCompose.Stmt.Basic
import SqlCompose.Stmt.Builder
import SqlCompose.Stmt.Input
import SqlCompose.Stmt.Kind
import SqlCompose.Stmt.Render
import SqlCompose.Text.Digits
import SqlCompose.Text.Excerpt
import SqlCompose.Text.Marker
import SqlCompose.Text.Split
import SqlCompose.Value.Basic
import SqlCompose.Value.Document
import SqlCompose.Value.Typed
import SqlCompose.Writer
import SqlCompose.Proofs.Cond.Composition
import SqlCompose.Proofs.Cond.Reading
import SqlCompose.Proofs.Stmt.Nesting
import SqlCompose.Proofs.Text.Filling
import SqlCompose.Proofs.Writer.Append
import SqlCompose.Proofs.Stmt.Pieces
import SqlCompose.Proofs.Stmt.Legibility
import SqlCompose.Proofs.Stmt.Steps
import SqlCompose.Proofs.Stmt.Placeholders
import SqlCompose.Proofs.Stmt.Groups
import SqlCompose.Proofs.Stmt.Batch
import SqlCompose.Proofs.Executor.Calls
import SqlCompose.Proofs.Executor.Delivery
import SqlCompose.Proofs.Stmt.Building
import SqlCompose.Proofs.Postgres.Tasks
import SqlCompose.Proofs.Postgres.Provenance
import SqlCompose.Proofs.Postgres.Registration
import SqlCompose.Proofs.Executor.Outcome
import SqlCompose.Proofs.Stmt.MapRows
import SqlCompose.Proofs.Cond.Joining
import SqlCompose.Proofs.Stmt.WellFormed
import SqlCompose.Proofs.Stmt.Conditions
import SqlCompose.Proofs.Stmt.Decision
import SqlCompose.Proofs.Stmt.Framing
import SqlCompose.Proofs.Text.Numbering
import SqlCompose.Proofs.Value.Reading
import SqlCompose.Proofs.Record.RoundTrip
import SqlCompose.Proofs.Postgres.Octets
import SqlCompose.Proofs.Postgres.RoundTrip
import SqlCompose.Proofs.Pool.References
import SqlCompose.Proofs.Pool.Release
import SqlCompose.Proofs.Pool.Lending
import SqlCompose.Proofs.Pool.Contents
import SqlCompose.Proofs.Pool.Sessions
import SqlCompose.Proofs.Cond.Alike
import SqlCompose.Proofs.Cond.Validity
import SqlCompose.Proofs.Stmt.Accumulation
import SqlCompose.Proofs.Stmt.BulkRows
import SqlCompose.Proofs.Postgres.Integers
import SqlCompose.Proofs.Row.NamedColumns
import SqlCompose.Proofs.Record.Caches
import SqlCompose.Proofs.Stmt.ClauseOrder
import SqlCompose.Proofs.Stmt.Transparency
import SqlCompose.Proofs.Stmt.Refusals
import SqlCompose.Proofs.Pool.Copies
import SqlCompose.Proofs.Stmt.MapInsertions
import SqlCompose.Proofs.Text.Excerpt
