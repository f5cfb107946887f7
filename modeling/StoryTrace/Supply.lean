import StoryTrace.Time.Instant

/-!
# Fresh ids and clock readings

The ids and times that a session generates are data given to it: sequences and how much of each is
used up. The clock tells the time of day and can be set back, so that spells of time are taken with
a stopwatch.
-/

namespace StoryTrace

structure Supply where
  ids : Nat → String
  clock : Nat → Instant
  /-- Nanoseconds on the stopwatch. -/
  stopwatch : Nat → Nat
  idsUsed : Nat
  readings : Nat
  laps : Nat

namespace Supply

/-- Ids from the sequence and readings of the clock, none of them used, and a stopwatch that stands
still. -/
def start (ids : Nat → String) (clock : Nat → Instant) : Supply := ⟨ids, clock, fun _ => 0, 0, 0, 0⟩

def withStopwatch (s : Supply) (stopwatch : Nat → Nat) : Supply := { s with stopwatch }

/-- The next id of the sequence. -/
def takeId (s : Supply) : String × Supply := (s.ids s.idsUsed, { s with idsUsed := s.idsUsed + 1 })

/-- The next reading of the clock. -/
def takeTime (s : Supply) : Instant × Supply :=
  (s.clock s.readings, { s with readings := s.readings + 1 })

/-- The next reading of the stopwatch. -/
def takeLap (s : Supply) : Nat × Supply := (s.stopwatch s.laps, { s with laps := s.laps + 1 })

/-- No id is generated twice. -/
def Fresh (s : Supply) : Prop := ∀ i j, s.ids i = s.ids j → i = j

theorem Fresh.takeId {s : Supply} (h : s.Fresh) : s.takeId.2.Fresh := h

end Supply

/-- The milliseconds between two readings of a stopwatch. None have passed if the second one is not
later. -/
def elapsedMillis (began stopped : Nat) : Float :=
  let nanos := stopped - began
  (Float.ofNat (nanos / 1000000000) + Float.ofNat (nanos % 1000000000) / 1000000000.0) * 1000.0

end StoryTrace
