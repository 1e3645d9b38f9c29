import RoomDraw.Csv.Fault
import RoomDraw.Csv.Feed
import RoomDraw.Csv.Scanner
import RoomDraw.Event
import RoomDraw.Files.Disk
import RoomDraw.Files.Effect
import RoomDraw.Files.Replacement
import RoomDraw.Files.Resolution
import RoomDraw.Generator.Basic
import RoomDraw.Generator.KeyStream
import RoomDraw.Generator.Script
import RoomDraw.Host
import RoomDraw.Json.Fault
import RoomDraw.Json.Number
import RoomDraw.Json.Record
import RoomDraw.Json.Skip
import RoomDraw.Json.Text
import RoomDraw.Log.Filter
import RoomDraw.Log.Line
import RoomDraw.Log.Pattern
import RoomDraw.Main
import RoomDraw.Manifest.Basic
import RoomDraw.Manifest.Printer
import RoomDraw.Manifest.Reader
import RoomDraw.Manifest.Saving
import RoomDraw.Membership
import RoomDraw.Number.Binary
import RoomDraw.Number.Decimal
import RoomDraw.Number.Double
import RoomDraw.Number.Power
import RoomDraw.Number.Rounding
import RoomDraw.Path
import RoomDraw.Program
import RoomDraw.Proofs.Csv.Records
import RoomDraw.Proofs.Csv.Rendering
import RoomDraw.Proofs.Csv.Scanning
import RoomDraw.Proofs.Csv.Sheet
import RoomDraw.Proofs.Csv.Tables
import RoomDraw.Proofs.Files.Effect
import RoomDraw.Proofs.Files.Interleaving
import RoomDraw.Proofs.Files.Ownership
import RoomDraw.Proofs.Files.Replacement
import RoomDraw.Proofs.Files.Success
import RoomDraw.Proofs.Files.TemporaryName
import RoomDraw.Proofs.Files.Writers
import RoomDraw.Proofs.Generation
import RoomDraw.Proofs.Generation.Invariants
import RoomDraw.Proofs.Generation.Invitations
import RoomDraw.Proofs.Generation.Renaming
import RoomDraw.Proofs.Generator
import RoomDraw.Proofs.Json.Decision
import RoomDraw.Proofs.Json.Grammar
import RoomDraw.Proofs.Json.Nesting
import RoomDraw.Proofs.Json.Numeral
import RoomDraw.Proofs.Json.Places
import RoomDraw.Proofs.Json.Skipping
import RoomDraw.Proofs.Json.Soundness
import RoomDraw.Proofs.Json.Spelling
import RoomDraw.Proofs.Json.Text
import RoomDraw.Proofs.Json.Values
import RoomDraw.Proofs.Manifest.Atomicity
import RoomDraw.Proofs.Manifest.Format
import RoomDraw.Proofs.Manifest.Layouts
import RoomDraw.Proofs.Manifest.Rooms
import RoomDraw.Proofs.Manifest.RoundTrip
import RoomDraw.Proofs.Manifest.Saving
import RoomDraw.Proofs.Manifest.Truncation
import RoomDraw.Proofs.Manifest.WriteErrors
import RoomDraw.Proofs.Membership
import RoomDraw.Proofs.Membership.Conservation
import RoomDraw.Proofs.Number.Doubles
import RoomDraw.Proofs.Number.Nearest
import RoomDraw.Proofs.Number.Rounding
import RoomDraw.Proofs.Number.Value
import RoomDraw.Proofs.Path
import RoomDraw.Proofs.Program
import RoomDraw.Proofs.Roster.Chunks
import RoomDraw.Proofs.Roster.ErrorLine
import RoomDraw.Proofs.Roster.Faults
import RoomDraw.Proofs.Roster.Loading
import RoomDraw.Proofs.Roster.Table
import RoomDraw.Proofs.Run
import RoomDraw.Proofs.Run.Trace
import RoomDraw.Proofs.Seat.Arrangements
import RoomDraw.Proofs.Seat.Distinct
import RoomDraw.Proofs.Seat.Draws
import RoomDraw.Proofs.Seat.Unbiased
import RoomDraw.Proofs.Seating
import RoomDraw.Proofs.Settings.Arguments
import RoomDraw.Proofs.Settings.Environment
import RoomDraw.Proofs.Settings.File
import RoomDraw.Proofs.Settings.Layer
import RoomDraw.Proofs.Settings.Loading
import RoomDraw.Proofs.Settings.Precedence
import RoomDraw.Proofs.Size
import RoomDraw.Proofs.Size.Attempts
import RoomDraw.Proofs.Size.Clamping
import RoomDraw.Proofs.Statistics
import RoomDraw.Proofs.Statistics.Average
import RoomDraw.Proofs.Statistics.Counters
import RoomDraw.Proofs.Statistics.Order
import RoomDraw.Proofs.Text.Utf8
import RoomDraw.Proofs.World
import RoomDraw.Proofs.World.Watched
import RoomDraw.Room
import RoomDraw.Roster.Basic
import RoomDraw.Roster.Decoding
import RoomDraw.Roster.Loading
import RoomDraw.Run
import RoomDraw.Run.Error
import RoomDraw.Seat.Index
import RoomDraw.Seat.Selection
import RoomDraw.Seating
import RoomDraw.Settings.Arguments
import RoomDraw.Settings.Basic
import RoomDraw.Settings.Environment
import RoomDraw.Settings.File
import RoomDraw.Settings.Json
import RoomDraw.Settings.Layer
import RoomDraw.Settings.Literal
import RoomDraw.Settings.Loading
import RoomDraw.Size.Basic
import RoomDraw.Size.Pareto
import RoomDraw.Statistics
import RoomDraw.Text.Alphanumeric
import RoomDraw.Text.Quoted
import RoomDraw.Text.Shapeless
import RoomDraw.Text.Utf8
import RoomDraw.Toml.Basic
import RoomDraw.Toml.Reader
import RoomDraw.Toml.Scalar
import RoomDraw.World
