/-!
# Hexadecimal digits

Numbers are written with small letters, and read with letters of both cases.
-/

namespace StoryTrace.Text.Hex

/-- The digit for a number below sixteen. -/
def digit (n : Nat) : Char :=
  if n < 10 then Char.ofNat ('0'.toNat + n) else Char.ofNat ('a'.toNat + (n - 10))

def value? (c : Char) : Option Nat :=
  if '0' ≤ c ∧ c ≤ '9' then some (c.toNat - '0'.toNat)
  else if 'a' ≤ c ∧ c ≤ 'f' then some (c.toNat - 'a'.toNat + 10)
  else if 'A' ≤ c ∧ c ≤ 'F' then some (c.toNat - 'A'.toNat + 10)
  else none

/-- The lowest digits of a number, the highest of them first. -/
def digits (width n : Nat) : List Char :=
  match width with
  | 0 => []
  | width + 1 => digits width (n / 16) ++ [digit (n % 16)]

/-- The bytes that pairs of digits stand for, as far as there are pairs. -/
def bytes : List Char → List UInt8
  | a :: b :: rest =>
    match value? a, value? b with
    | some a, some b => (a * 16 + b).toUInt8 :: bytes rest
    | _, _ => []
  | _ => []

theorem value?_digit {n : Nat} (h : n < 16) : value? (digit n) = some n := by
  have : ∀ m : Fin 16, value? (digit m) = some m.val := by decide
  exact this ⟨n, h⟩

end StoryTrace.Text.Hex
