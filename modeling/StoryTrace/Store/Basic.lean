import StoryTrace.Record.Basic

/-!
# Store

A store keeps every trace and span that it receives, each at the place of its first arrival, and
counts the writes it received. A span that is created again is replaced, a trace is not; a closure
closes an open span once and is an orphan when it names no span. Spans are found through an index
from their ids to their places.
-/

namespace StoryTrace

/-- One write of a record. -/
inductive Write where
  | createTrace (t : Trace)
  | createSpan (s : Span)
  | endSpan (c : Closure)
  | updateTrace (u : TraceUpdate)

/-- The trace that a write is about. -/
def Write.traceId : Write → String
  | .createTrace t => t.id
  | .createSpan s => s.traceId
  | .endSpan c => c.traceId
  | .updateTrace u => u.traceId

structure Store where
  traces : List Trace
  spans : List Span
  /-- The place of every span, under its id. -/
  index : Table Nat
  creations : Nat
  closures : Nat
  orphans : Nat
  flushes : Nat

namespace Store

def empty : Store := ⟨[], [], [], 0, 0, 0, 0⟩

def trace? (s : Store) (id : String) : Option Trace := s.traces.find? (·.id == id)

/-- The place of a span among the spans. -/
def position? (s : Store) (id : String) : Option Nat := s.index.get? id

def span? (s : Store) (id : String) : Option Span := (s.position? id).bind (s.spans[·]?)

def hasTrace (s : Store) (id : String) : Bool := s.traces.any (·.id == id)

def hasSpan (s : Store) (id : String) : Bool := (s.position? id).isSome

/-- The spans of one trace. -/
def spansOf (s : Store) (traceId : String) : List Span := s.spans.filter (·.traceId == traceId)

def insertTrace (s : Store) (t : Trace) : Store :=
  if s.hasTrace t.id then s else { s with traces := s.traces ++ [t] }

/-- Adds a span, or puts it in the place of the span with its id. -/
def insertSpan (s : Store) (span : Span) : Store :=
  match s.position? span.id with
  | some place => { s with spans := s.spans.set place span }
  | none =>
    { s with spans := s.spans ++ [span], index := s.index.put span.id s.spans.length }

def closeSpan (s : Store) (c : Closure) : Store :=
  match s.position? c.spanId with
  | some place => { s with spans := s.spans.modify place (·.close c), closures := s.closures + 1 }
  | none => { s with closures := s.closures + 1, orphans := s.orphans + 1 }

/-- Changes the trace with the given id; an unknown id changes nothing. -/
def reviseTrace (s : Store) (id : String) (output : Option Json) (metadata : Metadata) : Store :=
  { s with traces := s.traces.map fun t => if t.id = id then t.revise output metadata else t }

/-- The store after a write. -/
def receive (s : Store) : Write → Store
  | .createTrace t => { s.insertTrace t with creations := s.creations + 1 }
  | .createSpan span => s.insertSpan span
  | .endSpan c => s.closeSpan c
  | .updateTrace u => s.reviseTrace u.traceId u.output u.metadata

/-- The store after writes in the given order. -/
def receiveAll (s : Store) (writes : List Write) : Store := writes.foldl receive s

theorem receiveAll_append (s : Store) (first more : List Write) :
    s.receiveAll (first ++ more) = (s.receiveAll first).receiveAll more :=
  List.foldl_append

@[simp] theorem spans_reviseTrace (s : Store) (id : String) (output : Option Json)
    (metadata : Metadata) : (s.reviseTrace id output metadata).spans = s.spans := rfl

@[simp] theorem traces_insertSpan (s : Store) (span : Span) :
    (s.insertSpan span).traces = s.traces := by
  unfold insertSpan; split <;> rfl

@[simp] theorem traces_closeSpan (s : Store) (c : Closure) :
    (s.closeSpan c).traces = s.traces := by
  unfold closeSpan; split <;> rfl

@[simp] theorem spans_insertTrace (s : Store) (t : Trace) :
    (s.insertTrace t).spans = s.spans := by
  unfold insertTrace; split <;> rfl

end Store

end StoryTrace
