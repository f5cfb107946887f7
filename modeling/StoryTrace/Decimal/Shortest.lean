import StoryTrace.Decimal.Binary

/-!
# Fewest digits

A double is named by every decimal between the midpoints to its neighbours. Among these the text
uses one with the fewest digits, and of several such the one nearest to the exact value.
-/

namespace StoryTrace.Decimal

/-- A positive decimal `0.d₁d₂… · 10 ^ point`. -/
structure Digits where
  digits : List Char
  point : Int
  deriving DecidableEq, Repr

/-- The value of a double in quarters of its unit, with the ends of the interval of reals that
round to it and the question whether the ends belong to the interval. -/
structure Interval where
  low : Nat
  value : Nat
  high : Nat
  closed : Bool

def Interval.ofMantissa (mantissa : Nat) (lowest : Bool) : Interval :=
  ⟨4 * mantissa - (if lowest then 1 else 2), 4 * mantissa, 4 * mantissa + 2, mantissa % 2 == 0⟩

/-- Whether the point `p` lies in the interval whose unit is `unit`. -/
def Interval.holds (i : Interval) (unit p : Nat) : Bool :=
  if i.closed then i.low * unit ≤ p && p ≤ i.high * unit
  else i.low * unit < p && p < i.high * unit

/-- The decimal with `count` digits that names the double, if there is one. The two candidates are
the neighbours of the exact value on the grid of decimals with that many digits. -/
def candidate (i : Interval) (exponent place : Int) (count : Nat) : Option (Nat × Int) :=
  let step := place - Int.ofNat count
  let unit := Nat.pow 10 (-step).toNat <<< (exponent - 2).toNat
  let grid := Nat.pow 10 step.toNat <<< (2 - exponent).toNat
  let below := i.value * unit / grid
  let above := below + 1
  match i.holds unit (below * grid), i.holds unit (above * grid) with
  | true, true =>
    let gapBelow := i.value * unit - below * grid
    let gapAbove := above * grid - i.value * unit
    if gapBelow < gapAbove then some (below, step)
    else if gapAbove < gapBelow then some (above, step)
    else some (if below % 2 = 0 then below else above, step)
  | true, false => some (below, step)
  | false, true => some (above, step)
  | false, false => none

/-- The digits of `n · 10 ^ step` without trailing zeros. -/
def Digits.ofNat (n : Nat) (step : Int) : Digits :=
  let ds := digitsOf n
  ⟨(ds.reverse.dropWhile (· == '0')).reverse, step + Int.ofNat ds.length⟩

/-- The shortest decimal of `mantissa · 2 ^ exponent`; seventeen digits always suffice. -/
def shortest (mantissa : Nat) (exponent : Int) (lowest : Bool) : Digits :=
  let i := Interval.ofMantissa mantissa lowest
  let (num, den) := ratio mantissa exponent
  let place := leadingPlace num den
  match (List.range 17).findSome? fun n => candidate i exponent place (n + 1) with
  | some (n, step) => Digits.ofNat n step
  | none => Digits.ofNat mantissa exponent

end StoryTrace.Decimal
