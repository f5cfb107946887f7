/-!
# Exact value of a double

A finite double is a whole number of units, each a power of two. Every decimal text of a double is
computed from this form with natural numbers only.
-/

namespace StoryTrace.Decimal

/-- What the bits of a double say. A finite one is `mantissa · 2 ^ exponent` up to its sign;
`lowest` marks the least mantissa of a binade, below which doubles lie half as far apart. -/
inductive Binary where
  | finite (negative : Bool) (mantissa : Nat) (exponent : Int) (lowest : Bool)
  | infinite (negative : Bool)
  | notANumber
  deriving DecidableEq, Repr

/-- Sign, biased exponent and fraction of a double with the given bits. -/
def Binary.ofBits (bits : Nat) : Binary :=
  let negative := decide (1 <<< 63 ≤ bits)
  let biased := bits >>> 52 % 2048
  let fraction := bits % (1 <<< 52)
  if biased = 2047 then
    if fraction = 0 then .infinite negative else .notANumber
  else if biased = 0 then .finite negative fraction (-1074) false
  else .finite negative ((1 <<< 52) + fraction) (Int.ofNat biased - 1075) (fraction == 0 && 1 < biased)

def Binary.ofFloat (x : Float) : Binary := .ofBits x.toBits.toNat

/-- The fraction `mantissa · 2 ^ exponent` as numerator and denominator. -/
def ratio (mantissa : Nat) (exponent : Int) : Nat × Nat :=
  (mantissa <<< exponent.toNat, 1 <<< (-exponent).toNat)

/-- The digits of a natural number in base ten. -/
def digitsOf (n : Nat) : List Char := Nat.toDigits 10 n

/-- The least power of ten above a positive fraction is `10 ^ leadingPlace`. -/
def leadingPlace (num den : Nat) : Int :=
  if den ≤ num then Int.ofNat (digitsOf (num / den)).length
  else -Int.ofNat (((List.range 400).find? fun j => den ≤ num * Nat.pow 10 (j + 1)).getD 400)

end StoryTrace.Decimal
