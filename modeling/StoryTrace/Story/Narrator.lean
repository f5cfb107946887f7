import StoryTrace.Config.Tracing
import StoryTrace.Session
import StoryTrace.Story.Correlation
import StoryTrace.Story.Event
import StoryTrace.Story.Headers

/-!
# Narrators

A narrator records the events of one story below one root trace, which it creates when it is first
needed, and keeps the metrics of the story. Events are recorded as spans that are closed at once.
-/

namespace StoryTrace

structure Narrator where
  /-- The root trace to use, if it is not to be a new one. -/
  traceId : Option String
  sessionId : Option String
  /-- The header that carries the root trace. -/
  header : String
  flushOnClose : Bool
  deriving DecidableEq, Repr

/-- What a narrator knows of its story. The correlation is there as soon as the root trace is. -/
structure Narration where
  storyId : String
  correlation : Option Correlation
  metrics : StoryMetrics

/-- The name that this program has in correlation paths. -/
def localSystem : String := "fabula"

/-- The name of a system that sends its trace in a header. -/
def externalSystem : String := "external"

/-- The id of a story that has none. -/
def unknownStory : String := "unknown"

/-- The name of the root trace of a story. -/
def rootName (storyId : String) : String := "📖 Story Generation: " ++ storyId

/-- The root trace of a story. Its metadata repeat its ids and tell when it was created. -/
def rootTrace (id storyId : String) (sessionId : Option String) (now : Instant)
    (createdAt : String) : Trace :=
  { Trace.new id (rootName storyId) now with
    sessionId
    metadata := Table.ofList [("story_id", .string storyId),
      ("session_id", .ofOption .string sessionId), ("created_at", .string createdAt)] }

namespace Narration

def start (c : TracingConfig) : Narration := ⟨c.storyId.getD unknownStory, none, .default⟩

end Narration

namespace Narrator

variable {σ α : Type} [Sink σ]

def ofConfig (c : TracingConfig) : Narrator :=
  ⟨c.traceId, c.sessionId, Headers.traceHeader, c.flushOnClose⟩

/-- The root trace, if one is there or given. -/
def rootId? (n : Narrator) (s : Narration) : Option String :=
  match s.correlation with
  | some c => some c.rootTraceId
  | none => n.traceId

/-- Creates the root trace. -/
def createRoot (n : Narrator) : Work Narration σ (Except SinkError String) := do
  let known ← Work.state
  let id := n.traceId.getD (← Work.newId)
  let created ← Work.now
  let trace := rootTrace id known.storyId n.sessionId created (Rfc3339.offsetText (← Work.now))
  match ← Work.send (.createTrace trace) with
  | .error e => return .error e
  | .ok () =>
    let correlation :=
      Correlation.start id known.storyId (n.sessionId.getD "") localSystem (← Work.now)
    Work.put { known with correlation := some correlation }
    return .ok id

/-- The root trace, which is created if it is not there yet. -/
def ensureRoot (n : Narrator) : Work Narration σ (Except SinkError String) := do
  match (← Work.state).correlation with
  | some c => return .ok c.rootTraceId
  | none => n.createRoot

/-- Headers for a request to another system. -/
def headers (n : Narrator) : Work Narration σ (Except SinkError Headers) := do
  match ← n.ensureRoot with
  | .error e => return .error e
  | .ok id =>
    let known ← Work.state
    return .ok (Table.ofList [(n.header, id), (Headers.storyHeader, known.storyId),
      (Headers.sessionHeader, n.sessionId.getD "")])

/-- Notes the trace that a request carries as a child, and tells whether it did. -/
def receive (n : Narrator) (h : Headers) : Work Narration σ Bool := do
  let known ← Work.state
  match h.get? n.header, known.correlation with
  | some incoming, some c =>
    Work.put { known with correlation := some (c.addChild incoming externalSystem) }
    return true
  | _, _ => return false

/-- The span of an event, closed at once. -/
def spanOf (e : StoryEvent) (storyId id traceId : String) (started ended : Instant) : Span :=
  { Span.new id traceId e.spanName started with
    parentId := e.parentId
    input := .object e.input
    metadata := e.spanMetadata storyId }.finished (e.output.map .object) ended

/-- Records an event and answers with its span. -/
def record (n : Narrator) (e : StoryEvent) : Work Narration σ (Except SinkError String) := do
  match ← n.ensureRoot with
  | .error error => return .error error
  | .ok traceId =>
    let id ← Work.newId
    let started ← Work.now
    let span := spanOf e (← Work.state).storyId id traceId started (← Work.now)
    return (← Work.send (.createSpan span)).map fun _ => id

/-- Counts a note in the metrics and records its event. -/
def tell (n : Narrator) (note : StoryNote) : Work Narration σ (Except SinkError String) := do
  Work.change fun s => { s with metrics := note.tally s.metrics }
  n.record note.event

def startEvent (storyId : String) : StoryEvent :=
  { kind := .storyStart, input := [("story_id", .string storyId)] }

def endEvent (storyId : String) (metrics : StoryMetrics) (parentId : String) : StoryEvent :=
  { kind := .storyEnd
    input := [("story_id", .string storyId)]
    output := some (Table.ofList [("duration_ms", .ofFloat metrics.totalMs),
      ("beats_generated", .ofNat metrics.beats)])
    parentId := some parentId }

def metricsEvent (metrics : StoryMetrics) : StoryEvent :=
  { kind := .storyMetrics, output := some (StorySpan.objectOf metrics.toJson.canonical) }

/-- A story whose start has been recorded. -/
structure Opening where
  traceId : String
  storyId : String
  /-- The span of the start. -/
  spanId : String
  /-- The reading of the stopwatch before anything was recorded. -/
  began : Nat
  deriving DecidableEq, Repr

/-- Records the start of a story, whose id may be given anew. -/
def openStory (n : Narrator) (storyId : Option String) :
    Work Narration σ (Except SinkError Opening) := do
  Work.change fun s => { s with storyId := storyId.getD s.storyId }
  let began ← Work.lap
  match ← n.ensureRoot with
  | .error e => return .error e
  | .ok traceId =>
    let storyId := (← Work.state).storyId
    match ← n.record (startEvent storyId) with
    | .error e => return .error e
    | .ok spanId => return .ok ⟨traceId, storyId, spanId, began⟩

/-- Records the end of a story and its metrics. A refusal is passed over. -/
def closeStory (n : Narrator) (o : Opening) : Work Narration σ Unit := do
  let total := elapsedMillis o.began (← Work.lap)
  Work.change fun s => { s with metrics := s.metrics.withTotal total }
  let metrics := (← Work.state).metrics
  discard (n.record (endEvent o.storyId metrics o.spanId))
  discard (n.record (metricsEvent metrics))

/-- Does work between the start and the end of a story. Without a start the work is not done; the
end is recorded whatever the work has come to. -/
def generate (n : Narrator) (storyId : Option String) (work : String → Work Narration σ α) :
    Work Narration σ (Except SinkError α) := do
  match ← n.openStory storyId with
  | .error e => return .error e
  | .ok opening =>
    let result ← work opening.traceId
    n.closeStory opening
    return .ok result

/-- Starts the metrics anew. -/
def reset : Work Narration σ Unit := Work.change fun s => { s with metrics := .default }

def close (n : Narrator) : Work Narration σ Unit := Work.close n.flushOnClose

end Narrator

end StoryTrace
