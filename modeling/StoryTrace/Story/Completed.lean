import StoryTrace.Story.Correlation
import StoryTrace.Story.Metrics
import StoryTrace.Story.Narrator
import StoryTrace.Story.Span

/-!
# Completed stories

The trace of a story with its spans, told by the system that recorded it or read back from the
records. Read back, the spans stand in the order of their starts, and spans that mean nothing for a
story are left out.
-/

namespace StoryTrace

structure CompletedStory where
  traceId : String
  storyId : String
  sessionId : String
  spans : List StorySpan
  startTime : Instant
  endTime : Instant
  durationMs : Float
  metrics : Option StoryMetrics
  content : Option String
  beatCount : Nat
  correlation : Option Correlation

namespace CompletedStory

/-- The number of beats that were created. -/
def countBeats (spans : List StorySpan) : Nat := spans.countP (·.kind == .beatCreated)

/-- Spans in the order of their starts. Spans that start together keep their order. -/
def sortSpans (spans : List StorySpan) : List StorySpan :=
  spans.mergeSort fun a b => a.startTime.ble b.startTime

/-- When the last of the spans has ended, or has started if it is open; never before the given
time. -/
def lastEnd (start : Instant) (spans : List Span) : Instant :=
  (spans.map fun s => s.endedAt.getD s.startedAt).foldl Instant.max start

/-- The metrics that an output gives, if they are an object of metrics. -/
def outputMetrics? (output : Option Json) : Option StoryMetrics :=
  ((output.bind (·.field? "metrics")).filter (·.object?.isSome)).bind StoryMetrics.ofJson?

/-- The metrics that the last metrics event gives. -/
def eventMetrics? (spans : List StorySpan) : Option StoryMetrics :=
  (spans.reverse.find? (·.kind == .storyMetrics)).bind fun s =>
    StoryMetrics.ofJson? (.object s.output)

/-- Reads a story back from its trace and spans. -/
def ofRecords (t : Trace) (spans : List Span) : CompletedStory :=
  let storySpans := sortSpans (spans.filterMap StorySpan.ofRecord?)
  let endTime := lastEnd t.createdAt spans
  { traceId := t.id
    storyId := ((t.metadata.get? "story_id").bind Json.string?).getD unknownStory
    sessionId := t.sessionId.getD ""
    spans := storySpans
    startTime := t.createdAt
    endTime
    durationMs := ((t.output.bind (·.field? "duration_ms")).bind Json.float?).getD
      (t.createdAt.millisFloat endTime)
    metrics := (outputMetrics? t.output).orElse fun _ => eventMetrics? storySpans
    content := (t.output.bind (·.field? "final_story_preview")).bind Json.string?
    beatCount := countBeats storySpans
    correlation := none }

def toJson (c : CompletedStory) : Json :=
  .object [("trace_id", .string c.traceId), ("story_id", .string c.storyId),
    ("session_id", .string c.sessionId), ("spans", .array (c.spans.map StorySpan.toJson)),
    ("start_time", c.startTime.toJson), ("end_time", c.endTime.toJson),
    ("duration_ms", .ofFloat c.durationMs), ("metrics", .ofOption StoryMetrics.toJson c.metrics),
    ("story_content", .ofOption .string c.content), ("beat_count", .ofNat c.beatCount),
    ("correlation", .ofOption Correlation.toJson c.correlation)]

def ofJson? (v : Json) : Option CompletedStory := do
  let l ← Json.Layout.of? 7 11 v
  let traceId ← l.required 0 "trace_id" Json.string?
  let storyId ← l.required 1 "story_id" Json.string?
  let sessionId ← l.required 2 "session_id" Json.string?
  let spans ← l.withDefault 3 "spans" [] fun v => v.array?.bind (·.mapM StorySpan.ofJson?)
  let startTime ← l.required 4 "start_time" Instant.ofJson?
  let endTime ← l.required 5 "end_time" Instant.ofJson?
  let durationMs ← l.required 6 "duration_ms" Json.float?
  let metrics ← l.optional 7 "metrics" StoryMetrics.ofJson?
  let content ← l.optional 8 "story_content" Json.string?
  let beatCount ← l.withDefault 9 "beat_count" 0 Json.nat?
  let correlation ← l.optional 10 "correlation" Correlation.ofJson?
  return { traceId, storyId, sessionId, spans, startTime, endTime, durationMs, metrics, content,
           beatCount, correlation }

end CompletedStory

end StoryTrace
