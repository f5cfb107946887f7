import StoryTrace.Time.Instant

/-!
# The Gregorian calendar

Dates as day numbers. The day number counts from 1970-01-01; years are counted from March inside,
so that the leap day is the last day of its year.
-/

namespace StoryTrace

structure Date where
  year : Int
  month : Nat
  day : Nat
  deriving DecidableEq, Repr

namespace Date

def isLeap (year : Int) : Bool := year % 4 == 0 && (year % 100 != 0 || year % 400 == 0)

def monthLength (year : Int) (month : Nat) : Nat :=
  if month = 2 then (if isLeap year then 29 else 28)
  else if month = 4 ∨ month = 6 ∨ month = 9 ∨ month = 11 then 30
  else 31

/-- The years that an instant may lie in. -/
def yearRange (year : Int) : Bool := decide (-262143 ≤ year) && decide (year ≤ 262142)

def valid (d : Date) : Bool :=
  yearRange d.year && 1 ≤ d.month && d.month ≤ 12 && 1 ≤ d.day && d.day ≤ monthLength d.year d.month

/-- Days from the first of March to the first day of the given month, counted from March. -/
def daysBeforeMonth (fromMarch : Int) : Int := (153 * fromMarch + 2) / 5

def toDays (d : Date) : Int :=
  let year := if d.month ≤ 2 then d.year - 1 else d.year
  let fromMarch := Int.ofNat ((d.month + 9) % 12)
  let ofEra := year % 400
  year / 400 * 146097 + (ofEra * 365 + ofEra / 4 - ofEra / 100) + daysBeforeMonth fromMarch +
    Int.ofNat d.day - 1 - 719468

def ofDays (days : Int) : Date :=
  let n := days + 719468
  let ofEra := n % 146097
  let yearOfEra := (ofEra - ofEra / 1460 + ofEra / 36524 - ofEra / 146096) / 365
  let ofYear := ofEra - (365 * yearOfEra + yearOfEra / 4 - yearOfEra / 100)
  let fromMarch := (5 * ofYear + 2) / 153
  let month := if fromMarch < 10 then fromMarch + 3 else fromMarch - 9
  let year := yearOfEra + n / 146097 * 400
  ⟨if month ≤ 2 then year + 1 else year, month.toNat,
    (ofYear - daysBeforeMonth fromMarch + 1).toNat⟩

def ofInstant (t : Instant) : Date := ofDays (t.second / 86400)

end Date

end StoryTrace
