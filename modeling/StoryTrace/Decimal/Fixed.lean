import StoryTrace.Decimal.Binary

/-!
# Fixed places

The exact value of a double, rounded to a given number of decimal places. A value halfway between
two candidates goes to the even one, and a negative value keeps its sign when it rounds to zero.
-/

namespace StoryTrace.Decimal

/-- The quotient rounded to the nearest whole number, ties to even. -/
def roundDiv (num den : Nat) : Nat :=
  let quotient := num / den
  let twice := 2 * (num % den)
  if twice < den then quotient
  else if den < twice then quotient + 1
  else if quotient % 2 = 0 then quotient else quotient + 1

/-- A whole number of units of `10 ^ -places`, as text. -/
def placed (places n : Nat) : List Char :=
  let ds := digitsOf n
  let ds := List.replicate (places + 1 - ds.length) '0' ++ ds
  let whole := ds.take (ds.length - places)
  if places = 0 then whole else whole ++ '.' :: ds.drop (ds.length - places)

def fixed (places : Nat) (x : Float) : String :=
  match Binary.ofFloat x with
  | .notANumber => "NaN"
  | .infinite negative => if negative then "-inf" else "inf"
  | .finite negative mantissa exponent _ =>
    let (num, den) := ratio mantissa exponent
    let text := placed places (roundDiv (num * Nat.pow 10 places) den)
    String.ofList (if negative then '-' :: text else text)

end StoryTrace.Decimal
