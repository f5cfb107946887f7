import StoryTrace.Config.Tracing
import StoryTrace.Record.Basic
import StoryTrace.Run.Notice

/-!
# Run maps

A run map knows the trace of every run that it has met, and the span of every run that has one. A
run joins the trace of its parent; a run without a known parent joins a trace of its own, or the
one trace that is fixed for all.
-/

namespace StoryTrace

/-- The trace that a run without a known parent joins. -/
inductive TracePolicy where
  | perRun
  | fixed (id : String)
  deriving DecidableEq, Repr

namespace TracePolicy

/-- Settings that name a trace fix it. -/
def ofConfig (c : TracingConfig) : TracePolicy :=
  match c.traceId with
  | some id => .fixed id
  | none => .perRun

/-- The trace to join, given an id that is not used yet. -/
def join (p : TracePolicy) (fresh : String) : String :=
  match p with
  | .perRun => fresh
  | .fixed id => id

end TracePolicy

/-- The span of a run. -/
structure RunSpan where
  id : String
  type : SpanType
  isOpen : Bool
  deriving DecidableEq, Repr

structure RunEntry where
  traceId : String
  span : Option RunSpan
  deriving DecidableEq, Repr

def RunEntry.isOpen (e : RunEntry) : Bool := e.span.any (·.isOpen)

/-- A trace that a run was found or assigned. It is new when no run had it before. -/
structure Resolution where
  traceId : String
  created : Bool
  deriving DecidableEq, Repr

/-- The span of a run that has just been closed. -/
structure ClosedRun where
  traceId : String
  spanId : String
  type : SpanType
  deriving DecidableEq, Repr

structure RunMap where
  runs : List (RunId × RunEntry)
  /-- The traces met so far, each once. -/
  traces : List String
  deriving DecidableEq, Repr

namespace RunMap

def empty : RunMap := ⟨[], []⟩

def find? (m : RunMap) (run : RunId) : Option RunEntry := m.runs.lookup run

def traceId? (m : RunMap) (run : RunId) : Option String := (m.find? run).map (·.traceId)

def span? (m : RunMap) (run : RunId) : Option RunSpan := (m.find? run).bind (·.span)

def spanId? (m : RunMap) (run : RunId) : Option String := (m.span? run).map (·.id)

def isOpen (m : RunMap) (run : RunId) : Bool := (m.find? run).any (·.isOpen)

/-- The number of runs. -/
def size (m : RunMap) : Nat := m.runs.length

def openCount (m : RunMap) : Nat := m.runs.countP (·.2.isOpen)

/-- The span of the parent of a run. -/
def parentSpanId? (m : RunMap) (parent : Option RunId) : Option String := parent.bind m.spanId?

/-- The trace that a run belongs to: that of the run itself, else that of its parent, else the
given one. -/
def traceFor (m : RunMap) (run : RunId) (parent : Option RunId) (other : String) : String :=
  ((m.traceId? run).orElse fun _ => parent.bind m.traceId?).getD other

def addTrace (m : RunMap) (id : String) : RunMap :=
  if m.traces.contains id then m else { m with traces := id :: m.traces }

/-- Finds the trace of a run, or assigns it one and adds the run. -/
def resolve (m : RunMap) (run : RunId) (parent : Option RunId) (other : String) :
    Resolution × RunMap :=
  let traceId := m.traceFor run parent other
  if (m.find? run).isSome then (⟨traceId, false⟩, m)
  else
    (⟨traceId, !m.traces.contains traceId⟩,
      { m.addTrace traceId with runs := (run, ⟨traceId, none⟩) :: m.runs })

/-- The map with the entry of a run changed. -/
def update (m : RunMap) (run : RunId) (f : RunEntry → RunEntry) : RunMap :=
  { m with runs := m.runs.map fun e => if e.1 = run then (e.1, f e.2) else e }

/-- Adds the open span of a run that has none, and tells whether it did. -/
def register (m : RunMap) (run : RunId) (spanId : String) (type : SpanType) : Bool × RunMap :=
  match m.find? run with
  | some ⟨_, none⟩ => (true, m.update run fun e => { e with span := some ⟨spanId, type, true⟩ })
  | _ => (false, m)

def setOpen (m : RunMap) (run : RunId) (isOpen : Bool) : RunMap :=
  m.update run fun e => { e with span := e.span.map fun o => { o with isOpen } }

/-- Closes the span of a run, if it is open. -/
def close (m : RunMap) (run : RunId) : Option (ClosedRun × RunMap) :=
  match m.find? run with
  | some ⟨traceId, some ⟨spanId, type, true⟩⟩ =>
    some (⟨traceId, spanId, type⟩, m.setOpen run false)
  | _ => none

/-- Opens the closed span of a run again, and tells whether it did. -/
def reopen (m : RunMap) (run : RunId) : Bool × RunMap :=
  match m.find? run with
  | some ⟨_, some ⟨_, _, false⟩⟩ => (true, m.setOpen run true)
  | _ => (false, m)

/-- Removes a run. With `release` its trace counts as not met any more. -/
def forget (m : RunMap) (run : RunId) (release : Bool) : RunMap :=
  match m.find? run with
  | none => m
  | some e =>
    { runs := m.runs.filter (·.1 ≠ run)
      traces := if release then m.traces.filter (· ≠ e.traceId) else m.traces }

@[simp] theorem find?_empty (run : RunId) : empty.find? run = none := rfl

theorem lookup_map_update (runs : List (RunId × RunEntry)) (run other : RunId)
    (f : RunEntry → RunEntry) :
    (runs.map fun e => if e.1 = run then (e.1, f e.2) else e).lookup other =
      if other = run then (runs.lookup other).map f else runs.lookup other := by
  induction runs with
  | nil => simp
  | cons e rest ih =>
    obtain ⟨k, v⟩ := e
    by_cases hk : k = run
    · subst hk
      by_cases ho : other = k
      · subst ho; simp
      · simpa [List.lookup_cons, ho, beq_eq_false_iff_ne.2 ho] using ih
    · by_cases ho : other = k
      · subst ho; simp [hk]
      · simpa [hk, List.lookup_cons, beq_eq_false_iff_ne.2 ho] using ih

theorem find?_update (m : RunMap) (run other : RunId) (f : RunEntry → RunEntry) :
    (m.update run f).find? other =
      if other = run then (m.find? other).map f else m.find? other :=
  lookup_map_update m.runs run other f

end RunMap

end StoryTrace
