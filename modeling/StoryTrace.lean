import StoryTrace.Command.Arguments
import StoryTrace.Command.Invocation
import StoryTrace.Command.Perform
import StoryTrace.Command.Reach
import StoryTrace.Config.Program
import StoryTrace.Config.Tracing
import StoryTrace.Decimal.Binary
import StoryTrace.Decimal.Fixed
import StoryTrace.Decimal.Shortest
import StoryTrace.Demo
import StoryTrace.Error
import StoryTrace.Event.Basic
import StoryTrace.Event.Codec
import StoryTrace.Files.Lemmas
import StoryTrace.Files.Lookup
import StoryTrace.Files.Path
import StoryTrace.Files.Tree
import StoryTrace.Forest
import StoryTrace.Json.Layout
import StoryTrace.Json.Number
import StoryTrace.Json.Parser
import StoryTrace.Json.Printer
import StoryTrace.Json.Skip
import StoryTrace.Json.Value
import StoryTrace.Main
import StoryTrace.Proofs.Forest
import StoryTrace.Proofs.Record.Senders
import StoryTrace.Proofs.Record.WellFormed
import StoryTrace.Proofs.Run.Closing
import StoryTrace.Proofs.Run.Exchange
import StoryTrace.Proofs.Run.Life
import StoryTrace.Proofs.Run.Map
import StoryTrace.Proofs.Run.Mirror
import StoryTrace.Proofs.Run.Nesting
import StoryTrace.Proofs.Run.Order
import StoryTrace.Proofs.Run.Starts
import StoryTrace.Proofs.Run.Trees
import StoryTrace.Proofs.Run.Turn
import StoryTrace.Proofs.Session
import StoryTrace.Proofs.Sink.Gate
import StoryTrace.Proofs.Sink.Watched
import StoryTrace.Proofs.Store.Replay
import StoryTrace.Proofs.Store.Spans
import StoryTrace.Proofs.Store.Upsert
import StoryTrace.Proofs.Table
import StoryTrace.Record.Basic
import StoryTrace.Record.Codec
import StoryTrace.Record.Draft
import StoryTrace.Report.Advice
import StoryTrace.Report.Arcs
import StoryTrace.Report.Display
import StoryTrace.Report.Markdown
import StoryTrace.Report.Outline
import StoryTrace.Report.Render
import StoryTrace.Report.Timeline
import StoryTrace.Run.Codec
import StoryTrace.Run.Kind
import StoryTrace.Run.Map
import StoryTrace.Run.Notice
import StoryTrace.Run.Recorder
import StoryTrace.Session
import StoryTrace.Sink.Basic
import StoryTrace.Sink.Batch
import StoryTrace.Sink.Journal
import StoryTrace.Store.Basic
import StoryTrace.Store.Replay
import StoryTrace.Store.View
import StoryTrace.Story.Codec
import StoryTrace.Story.Completed
import StoryTrace.Story.Correlation
import StoryTrace.Story.Event
import StoryTrace.Story.Headers
import StoryTrace.Story.Kind
import StoryTrace.Story.Metrics
import StoryTrace.Story.Narrator
import StoryTrace.Story.Orchestrator
import StoryTrace.Story.Span
import StoryTrace.Supply
import StoryTrace.Table
import StoryTrace.Text.Blank
import StoryTrace.Text.Case
import StoryTrace.Text.Case.Ranges
import StoryTrace.Text.Hex
import StoryTrace.Text.Preview
import StoryTrace.Text.Uuid
import StoryTrace.Time.Calendar
import StoryTrace.Time.Instant
import StoryTrace.Time.Rfc3339
import StoryTrace.Toml.Document
import StoryTrace.Toml.Lexical
import StoryTrace.Toml.Parser
import StoryTrace.Toml.Printer
import StoryTrace.Proofs.Store.Arrivals
import StoryTrace.Proofs.Forest.Acyclic
import StoryTrace.Proofs.Story.Requests
import StoryTrace.Proofs.Story.Turn
import StoryTrace.Proofs.Story.Closing
import StoryTrace.Proofs.Json.Numbers
import StoryTrace.Proofs.Json.Reading
import StoryTrace.Proofs.Json.Fields
import StoryTrace.Proofs.Event.Codec
import StoryTrace.Proofs.Event.Wire
import StoryTrace.Proofs.Story.Dealings
import StoryTrace.Proofs.Story.Tally
import StoryTrace.Proofs.Story.Finalizing
import StoryTrace.Proofs.Story.Timing
import StoryTrace.Proofs.Story.Tracking
import StoryTrace.Proofs.Story.Failing
import StoryTrace.Proofs.Story.Recorded
import StoryTrace.Proofs.Story.Counting
import StoryTrace.Proofs.Time.Calendar
import StoryTrace.Proofs.Time.Rfc3339
import StoryTrace.Proofs.Event.Payload
import StoryTrace.Proofs.Story.Replayed
import StoryTrace.Proofs.Decimal.Magnitude
import StoryTrace.Proofs.Story.Metrics
import StoryTrace.Proofs.Story.Matching
import StoryTrace.Proofs.Story.Storing
import StoryTrace.Proofs.Story.Mirroring
import StoryTrace.Proofs.Story.Rebuilt
import StoryTrace.Proofs.Story.Attempts
import StoryTrace.Proofs.Store.Log
import StoryTrace.Proofs.Store.Repeated
import StoryTrace.Proofs.Store.Sublog
import StoryTrace.Proofs.Report.Locality
import StoryTrace.Proofs.Forest.Parts
import StoryTrace.Proofs.Run.Chronicle
import StoryTrace.Proofs.Run.Portrait
import StoryTrace.Proofs.Run.Streams
import StoryTrace.Proofs.Sink.Batch
import StoryTrace.Proofs.Sink.Journal
import StoryTrace.Proofs.Story.Handling
import StoryTrace.Proofs.Story.Rooting
import StoryTrace.Proofs.Story.Neighbours
import StoryTrace.Proofs.Story.Steps
import StoryTrace.Proofs.Story.Overlapping
import StoryTrace.Proofs.Run.Uses
import StoryTrace.Proofs.Run.Entries
import StoryTrace.Proofs.Story.Outcomes
import StoryTrace.Proofs.Story.Deeds
import StoryTrace.Proofs.Story.Correlating
import StoryTrace.Proofs.Story.Bracketing
import StoryTrace.Proofs.Story.Naming
import StoryTrace.Proofs.Report.Outline
import StoryTrace.Proofs.Time.Sorting
import StoryTrace.Proofs.Report.Timeline
import StoryTrace.Proofs.Json.Members
import StoryTrace.Proofs.Event.Bodies
import StoryTrace.Proofs.Json.Restated
import StoryTrace.Proofs.Record.Survival
import StoryTrace.Proofs.Story.Survival
import StoryTrace.Proofs.Report.Display
import StoryTrace.Proofs.Story.Headers
import StoryTrace.Proofs.FirstPlaces
import StoryTrace.Proofs.Text.Lines
import StoryTrace.Proofs.Config.Filling
import StoryTrace.Proofs.Files.Components
import StoryTrace.Proofs.Config.Nearest
import StoryTrace.Proofs.Text.Preview
import StoryTrace.Proofs.Report.Markdown
