import StoryTrace.Json.Value
import StoryTrace.Time.Instant

/-!
# Records

A trace is one unit of work. A span is an operation inside a trace; it is open until a closure
ends it, and a closed span never changes again. An update appends the outcome of a trace.
-/

namespace StoryTrace

/-- How a span is shown: as a timed operation, or as a call of a model. -/
inductive SpanType where
  | span
  | generation
  deriving DecidableEq, Repr, Inhabited

inductive Level where
  | debug
  | standard
  | warning
  | error
  deriving DecidableEq, Repr, Inhabited

inductive Status where
  | running
  | succeeded
  | failed (message : String) (kind : Option String)
  deriving DecidableEq, Repr, Inhabited

def Status.isRunning : Status → Bool
  | .running => true
  | _ => false

def Status.isFailed : Status → Bool
  | .failed _ _ => true
  | _ => false

/-- The error message of a failure. -/
def Status.message? : Status → Option String
  | .failed message _ => some message
  | _ => none

/-- Token counts of a model call. -/
structure Usage where
  prompt : Option Nat
  completion : Option Nat
  total : Option Nat
  deriving DecidableEq, Repr, Inhabited

namespace Usage

/-- Counts have 64 bits, and so has their total. -/
def ofCounts (prompt completion : Nat) : Usage :=
  ⟨some prompt, some completion, some ((prompt + completion) % UInt64.size)⟩

def isEmpty (u : Usage) : Bool := u.prompt.isNone && u.completion.isNone && u.total.isNone

end Usage

structure Trace where
  id : String
  sessionId : Option String
  name : String
  metadata : Metadata
  createdAt : Instant
  output : Option Json

structure Span where
  id : String
  traceId : String
  parentId : Option String
  type : SpanType
  name : String
  input : Json
  output : Option Json
  metadata : Metadata
  startedAt : Instant
  endedAt : Option Instant
  status : Status
  level : Level
  usage : Option Usage

structure Closure where
  spanId : String
  traceId : String
  type : SpanType
  output : Option Json
  status : Status
  level : Level
  usage : Option Usage
  endedAt : Instant

structure TraceUpdate where
  traceId : String
  output : Option Json
  metadata : Metadata

namespace Trace

def new (id name : String) (now : Instant) : Trace := ⟨id, none, name, [], now, none⟩

def withMetadata (t : Trace) (key : String) (value : Json) : Trace :=
  { t with metadata := t.metadata.put key value.canonical }

/-- The trace with the output, if there is one, and the metadata of an update. -/
def revise (t : Trace) (output : Option Json) (metadata : Metadata) : Trace :=
  { t with output := output.orElse fun _ => t.output, metadata := t.metadata.merge metadata }

end Trace

namespace Span

/-- An open span without parent and payload. -/
def new (id traceId name : String) (now : Instant) : Span :=
  ⟨id, traceId, none, .span, name, .null, none, [], now, none, .running, .standard, none⟩

/-- The span closed successfully at once. -/
def finished (s : Span) (output : Option Json) (now : Instant) : Span :=
  { s with output, endedAt := some now, status := .succeeded }

def isOpen (s : Span) : Bool := s.status.isRunning

/-- A closure applies to the open span it names. -/
def accepts (s : Span) (c : Closure) : Bool := s.isOpen && c.spanId == s.id

/-- The span after a closure that it accepts. -/
def closedBy (s : Span) (c : Closure) : Span :=
  { s with
    output := c.output.orElse fun _ => s.output
    usage := c.usage.orElse fun _ => s.usage
    endedAt := some c.endedAt
    level := c.level
    status := c.status }

/-- The span after a closure; one that it does not accept changes nothing. -/
def close (s : Span) (c : Closure) : Span := if s.accepts c then s.closedBy c else s

/-- The duration of a closed span in milliseconds. -/
def duration? (s : Span) : Option Nat := s.endedAt.map (Instant.millisBetween s.startedAt)

@[simp] theorem id_closedBy (s : Span) (c : Closure) : (s.closedBy c).id = s.id := rfl

@[simp] theorem id_close (s : Span) (c : Closure) : (s.close c).id = s.id := by
  unfold close; split <;> rfl

@[simp] theorem traceId_close (s : Span) (c : Closure) : (s.close c).traceId = s.traceId := by
  unfold close; split <;> rfl

@[simp] theorem parentId_close (s : Span) (c : Closure) : (s.close c).parentId = s.parentId := by
  unfold close; split <;> rfl

theorem close_of_not_isOpen {s : Span} (c : Closure) (h : s.isOpen = false) : s.close c = s := by
  simp [close, accepts, h]

end Span

namespace Closure

def succeeded (spanId traceId : String) (output : Option Json) (now : Instant) : Closure :=
  ⟨spanId, traceId, .span, output, .succeeded, .standard, none, now⟩

/-- The output of a failure: its message and the name of its kind. -/
def failureOutput (message : String) (kind : Option String) : Json :=
  .object [("error", .string message), ("error_type", Json.ofOption .string kind)]

def failed (spanId traceId message : String) (kind : Option String) (now : Instant) : Closure :=
  ⟨spanId, traceId, .span, some (failureOutput message kind), .failed message kind, .error, none,
    now⟩

def withType (c : Closure) (type : SpanType) : Closure := { c with type }

/-- Counts that say nothing are left out. -/
def withUsage (c : Closure) (usage : Option Usage) : Closure :=
  { c with usage := usage.filter fun u => !u.isEmpty }

end Closure

end StoryTrace
