import StoryTrace.Decimal.Shortest
import StoryTrace.Json.Value

/-!
# Number texts

The written form of a number and the reading of one. A double is written with the fewest digits;
it is read from the first digits that fit 64 bits and one power of ten, each rounded once.
-/

namespace StoryTrace.Json

namespace Number

/-- Doubles from `0.00001` up to below `10 ^ 16` are written without an exponent. -/
def plainPoints (point : Int) : Bool := decide (-4 ≤ point) && decide (point ≤ 16)

def plainText (ds : List Char) (point : Int) : List Char :=
  if point ≤ 0 then '0' :: '.' :: (List.replicate (-point).toNat '0' ++ ds)
  else if ds.length ≤ point.toNat then
    ds ++ List.replicate (point.toNat - ds.length) '0' ++ ['.', '0']
  else ds.take point.toNat ++ '.' :: ds.drop point.toNat

def exponentText (n : Int) : List Char :=
  'e' :: (if n < 0 then '-' else '+') :: Decimal.digitsOf n.natAbs

def scientificText (ds : List Char) (point : Int) : List Char :=
  match ds with
  | [] => ['0']
  | [d] => d :: exponentText (point - 1)
  | d :: rest => d :: '.' :: rest ++ exponentText (point - 1)

def digitsText (d : Decimal.Digits) : List Char :=
  if plainPoints d.point then plainText d.digits d.point else scientificText d.digits d.point

/-- The text of a finite double; there is no text for the others. -/
def floatText? (x : Float) : Option (List Char) :=
  match Decimal.Binary.ofFloat x with
  | .finite negative mantissa exponent lowest =>
    let text :=
      if mantissa = 0 then ['0', '.', '0']
      else digitsText (Decimal.shortest mantissa exponent lowest)
    some (if negative then '-' :: text else text)
  | _ => none

def intText (n : Int) : List Char :=
  if n < 0 then '-' :: Decimal.digitsOf n.natAbs else Decimal.digitsOf n.natAbs

/-- A number that is not finite is written as null. -/
def chars : Number → List Char
  | .int n => intText n
  | .float x => (floatText? x).getD ['n', 'u', 'l', 'l']

def text (n : Number) : String := String.ofList n.chars

/-- The digits at the start of a text, and what follows them. -/
def takeDigits (cs : List Char) : List Char × List Char :=
  (cs.takeWhile Char.isDigit, cs.dropWhile Char.isDigit)

/-- The parts of a number as written: whether it is negative, its whole digits, its digits after
the point and its exponent, each as far as present. -/
structure Written where
  negative : Bool
  whole : List Char
  fraction : Option (List Char)
  exponent : Option (Bool × List Char)

def scanFraction (cs : List Char) : Option (Option (List Char) × List Char) :=
  match cs with
  | '.' :: rest =>
    match takeDigits rest with
    | ([], _) => none
    | (ds, rest) => some (some ds, rest)
  | _ => some (none, cs)

def scanExponent (cs : List Char) : Option (Option (Bool × List Char) × List Char) :=
  match cs with
  | c :: rest =>
    if c = 'e' ∨ c = 'E' then
      let (negative, rest) :=
        match rest with
        | '-' :: rest => (true, rest)
        | '+' :: rest => (false, rest)
        | _ => (false, rest)
      match takeDigits rest with
      | ([], _) => none
      | (ds, rest) => some (some (negative, ds), rest)
    else some (none, cs)
  | [] => some (none, cs)

/-- Reads the longest number at the start of a text. No digit may follow a leading zero. -/
def scan (cs : List Char) : Option (Written × List Char) :=
  let (negative, cs) := match cs with
    | '-' :: rest => (true, rest)
    | _ => (false, cs)
  match takeDigits cs with
  | ([], _) => none
  | (whole, rest) =>
    if whole.head? = some '0' ∧ 1 < whole.length then none
    else do
      let (fraction, rest) ← scanFraction rest
      let (exponent, rest) ← scanExponent rest
      return (⟨negative, whole, fraction, exponent⟩, rest)

def digitValue (c : Char) : Nat := c.toNat - '0'.toNat

def natOf (ds : List Char) : Nat := ds.foldl (fun n c => 10 * n + digitValue c) 0

/-- The value of the digits that fit 64 bits after `n`, and the digits that no longer do. -/
def accumulate (n : Nat) (ds : List Char) : Nat × List Char :=
  match ds with
  | [] => (n, [])
  | c :: rest =>
    let next := 10 * n + digitValue c
    if next < UInt64.size then accumulate next rest else (n, c :: rest)

/-- `f · 10 ^ e`, by one multiplication or division as long as the power of ten is a double. -/
def scaled (f : Float) (e : Int) : Option Float :=
  if e.natAbs ≤ 308 then
    if 0 ≤ e then
      let r := f * Float.ofScientific 1 false e.natAbs
      if r.isInf then none else some r
    else some (f / Float.ofScientific 1 false e.natAbs)
  else if f == 0 then some f
  else if 0 ≤ e then none
  else scaled (f / Float.ofScientific 1 false 308) (e + 308)
termination_by (-e).toNat
decreasing_by omega

def signed (negative : Bool) (x : Float) : Float := if negative then -x else x

/-- Exponents of ten beyond 31 bits leave zero as it is, overflow or vanish. -/
def exponentLimit : Nat := 1 <<< 31

/-- The double that the parts of a written number name. -/
def Written.float? (w : Written) : Option Float :=
  let fraction := w.fraction.getD []
  let (n, dropped) := accumulate 0 w.whole
  let (significand, left) := accumulate n fraction
  let places := Int.ofNat dropped.length - Int.ofNat (fraction.length - left.length)
  match w.exponent with
  | none => (scaled (Float.ofNat significand) places).map (signed w.negative)
  | some (negative, ds) =>
    let e := natOf ds
    if exponentLimit ≤ e then
      if significand = 0 ∨ negative then some (signed w.negative 0.0) else none
    else
      let e := if negative then places - Int.ofNat e else places + Int.ofNat e
      (scaled (Float.ofNat significand) e).map (signed w.negative)

/-- A number without fraction and exponent that fits 64 bits is whole, except for minus zero. -/
def Written.number? (w : Written) : Option Number :=
  match w.fraction, w.exponent with
  | none, none =>
    let n := natOf w.whole
    if w.negative then
      if 0 < n ∧ n ≤ 1 <<< 63 then some (.int (-Int.ofNat n)) else w.float?.map .float
    else if n < UInt64.size then some (.int (Int.ofNat n)) else w.float?.map .float
  | _, _ => w.float?.map .float

end Number

end StoryTrace.Json
