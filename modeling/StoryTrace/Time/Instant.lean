/-!
# Instants

A point in time as a count of seconds and a fraction in nanoseconds. A fraction of a whole second
or more names the leap second that follows the counted one, so instants compare by seconds first.
-/

namespace StoryTrace

structure Instant where
  /-- Seconds since the start of 1970 in UTC. -/
  second : Int
  nano : Nat
  deriving DecidableEq, Repr

namespace Instant

instance : Inhabited Instant := ⟨⟨0, 0⟩⟩

def ble (a b : Instant) : Bool :=
  decide (a.second < b.second) || (a.second == b.second && a.nano ≤ b.nano)

/-- The later of two instants, the second one if they are equal. -/
def max (a b : Instant) : Instant := if a.ble b then b else a

def secondOfDay (t : Instant) : Int := t.second % 86400

/-- The leap second that one of two instants may lie in counts when the time of day has passed
it. -/
def leapCorrection (a b : Instant) : Int :=
  if b.secondOfDay < a.secondOfDay then (if 1000000000 ≤ b.nano then 1 else 0)
  else if a.secondOfDay < b.secondOfDay then (if 1000000000 ≤ a.nano then -1 else 0)
  else 0

/-- The nanoseconds from `b` to `a`. -/
def nanosSince (a b : Instant) : Int :=
  (a.second - b.second + leapCorrection a b) * 1000000000 + (Int.ofNat a.nano - Int.ofNat b.nano)

/-- The whole milliseconds from `start` to `stop`, and zero if `stop` comes first. -/
def millisBetween (start stop : Instant) : Nat :=
  ((stop.nanosSince start).tdiv 1000000).toNat

/-- The milliseconds from `start` to `stop`, exact to the microsecond. -/
def millisFloat (start stop : Instant) : Float :=
  let micros := (stop.nanosSince start).tdiv 1000
  if micros.natAbs < 1 <<< 63 then Float.ofInt micros / 1000.0 else 0.0

def addNanos (t : Instant) (n : Nat) : Instant :=
  let total := t.nano + n
  ⟨t.second + Int.ofNat (total / 1000000000), total % 1000000000⟩

theorem ble_refl (a : Instant) : a.ble a = true := by simp [ble]

theorem ble_total (a b : Instant) : (a.ble b || b.ble a) = true := by
  simp only [ble, Bool.or_eq_true, Bool.and_eq_true, decide_eq_true_eq, beq_iff_eq]
  omega

theorem ble_trans {a b c : Instant} (hab : a.ble b = true) (hbc : b.ble c = true) :
    a.ble c = true := by
  simp only [ble, Bool.or_eq_true, Bool.and_eq_true, decide_eq_true_eq, beq_iff_eq] at *
  omega

end Instant

end StoryTrace
