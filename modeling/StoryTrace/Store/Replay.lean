import StoryTrace.Event.Basic
import StoryTrace.Store.Basic

/-!
# Replay

A store can be rebuilt from the events of its writes. Creation and update of a trace share one kind
of event: the first event of an id creates the trace, and later ones only append. An event whose
body does not fit its kind changes nothing.
-/

namespace StoryTrace

namespace Event

/-- The event that a write is sent as. -/
def ofWrite (w : Write) (id : String) (now : Instant) : Event :=
  match w with
  | .createTrace t => .ofTrace t id now
  | .createSpan s => .ofSpan s id now
  | .endSpan c => .ofClosure c id now
  | .updateTrace u => .ofUpdate u id now

end Event

namespace Store

/-- The store after an event with the body of a trace. -/
def replayTrace (s : Store) (now : Instant) (b : TraceBody) : Store :=
  if s.hasTrace b.id then s.reviseTrace b.id b.output (b.metadata.getD [])
  else { s with traces := s.traces ++ [b.toTrace now], creations := s.creations + 1 }

/-- The store after an event. Missing times are filled with the given reading of the clock. -/
def replayEvent (now : Instant) (s : Store) (e : Event) : Store :=
  match e.kind, e.body with
  | .traceCreate, .trace b => s.replayTrace now b
  | .spanCreate, .span b => s.insertSpan (b.toSpan .span now)
  | .generationCreate, .span b => s.insertSpan (b.toSpan .generation now)
  | .spanUpdate, .span b => s.closeSpan (b.toClosure .span now)
  | .generationUpdate, .span b => s.closeSpan (b.toClosure .generation now)
  | _, _ => s

/-- The store rebuilt from the events of a log. -/
def replay (now : Instant) (events : List Event) : Store := events.foldl (replayEvent now) .empty

end Store

end StoryTrace
