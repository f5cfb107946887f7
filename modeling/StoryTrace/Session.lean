import StoryTrace.Sink.Basic
import StoryTrace.Supply

/-!
# Sessions

Work in a session reads and changes a state of its own, hands writes to a sink, and takes fresh ids
and clock readings from a supply. Work of several parts with states of their own can share one sink
and one supply.
-/

namespace StoryTrace

structure Session (τ σ : Type) where
  state : τ
  sink : σ
  supply : Supply

/-- Work in a session, with its result. -/
abbrev Work (τ σ : Type) := StateM (Session τ σ)

/-- Work that stops at its first failure. -/
abbrev Attempt (ε τ σ : Type) := ExceptT ε (Work τ σ)

namespace Work

variable {τ ρ σ α : Type}

/-- The state as it is now. -/
def state : Work τ σ τ := fun s => (s.state, s)

def put (state : τ) : Work τ σ Unit := fun s => ((), { s with state })

def change (f : τ → τ) : Work τ σ Unit := fun s => ((), { s with state := f s.state })

/-- An id that was not generated before. -/
def newId : Work τ σ String := fun s =>
  (s.supply.takeId.1, { s with supply := s.supply.takeId.2 })

/-- A reading of the clock. -/
def now : Work τ σ Instant := fun s =>
  (s.supply.takeTime.1, { s with supply := s.supply.takeTime.2 })

/-- A reading of the stopwatch. -/
def lap : Work τ σ Nat := fun s =>
  (s.supply.takeLap.1, { s with supply := s.supply.takeLap.2 })

/-- Hands a write to the sink. -/
def send [Sink σ] (w : Write) : Work τ σ (Except SinkError Unit) := fun s =>
  ((Sink.send w s.sink).1, { s with sink := (Sink.send w s.sink).2 })

def flush [Sink σ] : Work τ σ (Except SinkError Unit) := fun s =>
  ((Sink.flush s.sink).1, { s with sink := (Sink.flush s.sink).2 })

/-- Flushes if asked to. A failure is passed over. -/
def close [Sink σ] (flushOnClose : Bool) : Work τ σ Unit := do
  if flushOnClose then discard flush

/-- Work on one part of a larger state. -/
def within (part : ρ → τ) (replace : ρ → τ → ρ) (work : Work τ σ α) : Work ρ σ α := fun s =>
  let (result, t) := work ⟨part s.state, s.sink, s.supply⟩
  (result, ⟨replace s.state t.state, t.sink, t.supply⟩)

end Work

end StoryTrace
