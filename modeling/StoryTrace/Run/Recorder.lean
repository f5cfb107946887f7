import StoryTrace.Run.Map
import StoryTrace.Session

/-!
# Recorders

A recorder turns notices about runs into writes. Each run that starts gets a span below the span of
its parent, and the first end or failure that the sink accepts closes it. A start that the sink
refuses is forgotten, and a refused end leaves the run open.
-/

namespace StoryTrace

structure Recorder where
  traceName : String
  sessionId : Option String
  policy : TracePolicy
  flushOnClose : Bool
  deriving DecidableEq, Repr

/-- What is known of a run after its start. -/
structure StartedRun where
  traceId : String
  spanId : String
  /-- The start has created its trace. -/
  newTrace : Bool
  /-- The run had been started before, and nothing was written. -/
  repeated : Bool
  deriving DecidableEq, Repr

namespace Recorder

variable {σ : Type} [Sink σ]

def ofConfig (c : TracingConfig) : Recorder :=
  ⟨c.traceName, c.sessionId, .ofConfig c, c.flushOnClose⟩

/-- The trace that a top-level run starts. -/
def traceOf (r : Recorder) (id : String) (now : Instant) : Trace :=
  { Trace.new id r.traceName now with sessionId := r.sessionId }

/-- The open span of a run that starts. -/
def spanOf (s : RunStart) (id traceId : String) (parentId : Option String) (now : Instant) : Span :=
  { Span.new id traceId s.spanName now with
    parentId
    type := s.kind.spanType
    input := s.input.payload
    metadata := s.spanMetadata }

/-- The creation of a trace, unless it is known already. -/
def createTrace (r : Recorder) (resolution : Resolution) :
    Work RunMap σ (Except SinkError Unit) := do
  if resolution.created then Work.send (.createTrace (r.traceOf resolution.traceId (← Work.now)))
  else return .ok ()

/-- Starts a run that has no span yet. -/
def begin (r : Recorder) (s : RunStart) : Work RunMap σ (Except SinkError StartedRun) := do
  let known ← Work.state
  let (resolution, resolved) := known.resolve s.run s.parent (r.policy.join (← Work.newId))
  let undone := resolved.forget s.run resolution.created
  match ← r.createTrace resolution with
  | .error e =>
    Work.put undone
    return .error e
  | .ok () =>
    let id ← Work.newId
    let span :=
      spanOf s id resolution.traceId (resolved.parentSpanId? s.parent) (← Work.now)
    match ← Work.send (.createSpan span) with
    | .error e =>
      Work.put undone
      return .error e
    | .ok () =>
      Work.put (resolved.register s.run id s.kind.spanType).2
      return .ok ⟨resolution.traceId, id, resolution.created, false⟩

/-- Takes note that a run has started. A second start of a run changes nothing. -/
def start (r : Recorder) (s : RunStart) : Work RunMap σ (Except SinkError StartedRun) := do
  let known ← Work.state
  match known.spanId? s.run with
  | some id => return .ok ⟨(known.traceId? s.run).getD "", id, false, true⟩
  | none => r.begin s

/-- Closes the span of a run, if it is open, and tells whether it did. -/
def finish (run : RunId) (closure : ClosedRun → Instant → Closure) :
    Work RunMap σ (Except SinkError Bool) := do
  let known ← Work.state
  match known.close run with
  | none => return .ok false
  | some (taken, closed) =>
    match ← Work.send (.endSpan ((closure taken (← Work.now)).withType taken.type)) with
    | .error e =>
      Work.put (closed.reopen run).2
      return .error e
    | .ok () =>
      Work.put closed
      return .ok true

/-- Takes note that a run has ended. -/
def stop (run : RunId) (output : RunOutput) : Work RunMap σ (Except SinkError Bool) :=
  finish run fun c now =>
    (Closure.succeeded c.spanId c.traceId (some output.payload) now).withUsage output.usage?

/-- Takes note that a run has failed. -/
def fail (run : RunId) (error : RunError) : Work RunMap σ (Except SinkError Bool) :=
  finish run fun c now => Closure.failed c.spanId c.traceId error.message error.kind now

/-- Takes note of a result of a run and returns it. A result that cannot be written counts as null,
and a refusal is passed over. -/
def settle {α ε : Type} (run : RunId) (write : α → Option Json) (describe : ε → RunError)
    (result : Except ε α) : Work RunMap σ (Except ε α) := do
  match result with
  | .ok value => discard (stop run (.value ((write value).getD .null)))
  | .error e => discard (fail run (describe e))
  return result

/-- Takes note of anything that the host program tells, and says whether something was written. -/
def receive (r : Recorder) : Notice → Work RunMap σ (Except SinkError Bool)
  | .started s => do return (← r.start s).map (!·.repeated)
  | .ended run output => stop run output
  | .failed run error => fail run error

/-- The results of notices in the given order. -/
def receiveAll (r : Recorder) (notices : List Notice) :
    Work RunMap σ (List (Except SinkError Bool)) := notices.mapM r.receive

def close (r : Recorder) : Work RunMap σ Unit := Work.close r.flushOnClose

/-- Does the work and closes the recorder. -/
def bracket {α : Type} (r : Recorder) (work : Work RunMap σ α) : Work RunMap σ α := do
  let result ← work
  r.close
  return result

end Recorder

end StoryTrace
