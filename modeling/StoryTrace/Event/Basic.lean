import StoryTrace.Record.Basic

/-!
# Ingestion events

Every write of a record becomes one event: a creation of a trace or span, an update that closes a
span, or a second creation of a trace that carries only what an update appends. A span or closure
can be rebuilt from the event made of it.
-/

namespace StoryTrace

inductive EventKind where
  | traceCreate
  | spanCreate
  | spanUpdate
  | generationCreate
  | generationUpdate
  deriving DecidableEq, Repr

namespace EventKind

def create : SpanType → EventKind
  | .span => .spanCreate
  | .generation => .generationCreate

def update : SpanType → EventKind
  | .span => .spanUpdate
  | .generation => .generationUpdate

/-- The type of the spans that the events of this kind are about. -/
def spanType? : EventKind → Option SpanType
  | .traceCreate => none
  | .spanCreate | .spanUpdate => some .span
  | .generationCreate | .generationUpdate => some .generation

@[simp] theorem spanType?_create (t : SpanType) : (create t).spanType? = some t := by
  cases t <;> rfl

@[simp] theorem spanType?_update (t : SpanType) : (update t).spanType? = some t := by
  cases t <;> rfl

end EventKind

structure TraceBody where
  id : String
  name : Option String
  sessionId : Option String
  metadata : Option Metadata
  output : Option Json
  timestamp : Option Instant

structure SpanBody where
  id : String
  traceId : String
  parentId : Option String
  name : Option String
  startTime : Option Instant
  endTime : Option Instant
  input : Option Json
  output : Option Json
  metadata : Option Metadata
  level : Option Level
  statusMessage : Option String
  usage : Option Usage

inductive EventBody where
  | span (body : SpanBody)
  | trace (body : TraceBody)

/-- An event has an id and a time of its own, apart from those of the record in its body. -/
structure Event where
  id : String
  timestamp : Instant
  kind : EventKind
  body : EventBody

namespace SpanBody

/-- The name of the error kind that an output mentions. -/
def errorKind? (output : Option Json) : Option String :=
  output.bind fun v => (v.field? "error_type").bind Json.string?

/-- Level ERROR says that the span failed; every other closed span succeeded. -/
def status (b : SpanBody) : Status :=
  if b.level = some .error then .failed (b.statusMessage.getD "") (errorKind? b.output)
  else .succeeded

/-- The span that the body of a creation describes. Without an end time it is open, and a missing
start time is the present. -/
def toSpan (b : SpanBody) (type : SpanType) (now : Instant) : Span :=
  let span := Span.new b.id b.traceId (b.name.getD "") (b.startTime.getD now)
  let span :=
    { span with
      parentId := b.parentId
      type
      input := b.input.getD .null
      metadata := b.metadata.getD []
      usage := b.usage }
  match b.endTime with
  | none => span
  | some time =>
    { span with
      endedAt := some time
      output := b.output
      level := b.level.getD .standard
      status := b.status }

/-- The closure that the body of an update describes. A missing end time is the present. -/
def toClosure (b : SpanBody) (type : SpanType) (now : Instant) : Closure :=
  { spanId := b.id
    traceId := b.traceId
    type
    output := b.output
    status := b.status
    level := b.level.getD .standard
    usage := b.usage
    endedAt := b.endTime.getD now }

/-- What the creation of a span says about it. Null input and empty metadata are left out, and so
is the usual level. -/
def ofSpan (s : Span) : SpanBody :=
  { id := s.id
    traceId := s.traceId
    parentId := s.parentId
    name := some s.name
    startTime := some s.startedAt
    endTime := s.endedAt
    input := if s.input.isNull then none else some s.input
    output := s.output
    metadata := if s.metadata.isEmpty then none else some s.metadata
    level :=
      if s.status.isFailed then some .error
      else if s.level = .standard then none else some s.level
    statusMessage := s.status.message?
    usage := s.usage }

def ofClosure (c : Closure) : SpanBody :=
  { id := c.spanId
    traceId := c.traceId
    parentId := none
    name := none
    startTime := none
    endTime := some c.endedAt
    input := none
    output := c.output
    metadata := none
    level := some c.level
    statusMessage := c.status.message?
    usage := c.usage }

end SpanBody

namespace TraceBody

def ofTrace (t : Trace) : TraceBody :=
  { id := t.id
    name := some t.name
    sessionId := t.sessionId
    metadata := if t.metadata.isEmpty then none else some t.metadata
    output := t.output
    timestamp := some t.createdAt }

def ofUpdate (u : TraceUpdate) : TraceBody :=
  { id := u.traceId
    name := none
    sessionId := none
    metadata := if u.metadata.isEmpty then none else some u.metadata
    output := u.output
    timestamp := none }

/-- The trace that the body of a creation describes. -/
def toTrace (b : TraceBody) (now : Instant) : Trace :=
  { id := b.id
    sessionId := b.sessionId
    name := b.name.getD ""
    metadata := b.metadata.getD []
    createdAt := b.timestamp.getD now
    output := b.output }

end TraceBody

namespace Event

def ofTrace (t : Trace) (id : String) (now : Instant) : Event :=
  ⟨id, now, .traceCreate, .trace (.ofTrace t)⟩

def ofUpdate (u : TraceUpdate) (id : String) (now : Instant) : Event :=
  ⟨id, now, .traceCreate, .trace (.ofUpdate u)⟩

def ofSpan (s : Span) (id : String) (now : Instant) : Event :=
  ⟨id, now, .create s.type, .span (.ofSpan s)⟩

def ofClosure (c : Closure) (id : String) (now : Instant) : Event :=
  ⟨id, now, .update c.type, .span (.ofClosure c)⟩

end Event

end StoryTrace
