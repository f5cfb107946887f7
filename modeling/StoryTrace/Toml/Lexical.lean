import StoryTrace.Json.Number
import StoryTrace.Json.Parser

/-!
# TOML scalars

Keys, texts, numbers, times and the space between them. Every reader answers what it read and the
rest of the text.
-/

namespace StoryTrace.Toml

/-- Characters that may stand unescaped in comments and texts, apart from quotes and
backslashes. -/
def isPlain (c : Char) : Bool := c == '\t' || (0x20 ≤ c.toNat && c.toNat != 0x7F)

def isSpace (c : Char) : Bool := c == ' ' || c == '\t'

def skipSpace (cs : List Char) : List Char := cs.dropWhile isSpace

/-- The text after a newline, if one comes next. -/
def newline? : List Char → Option (List Char)
  | '\n' :: rest => some rest
  | '\r' :: '\n' :: rest => some rest
  | _ => none

/-- The text after an optional comment. -/
def skipComment : List Char → List Char
  | '#' :: rest => rest.dropWhile isPlain
  | cs => cs

/-- The text after spaces, comments and newlines. A carriage return alone is no newline. -/
def skipBlank (fuel : Nat) (cs : List Char) : List Char :=
  match fuel with
  | 0 => cs
  | fuel + 1 =>
    let rest := skipComment (skipSpace cs)
    match newline? rest with
    | some rest => skipBlank fuel rest
    | none => rest

def isBare (c : Char) : Bool := c.isAlphanum || c == '_' || c == '-'

def hexDigits? (count : Nat) (cs : List Char) : Option (Nat × List Char) :=
  match count with
  | 0 => some (0, cs)
  | count + 1 =>
    match cs with
    | [] => none
    | c :: rest => do
      let d ← Text.Hex.value? c
      let (n, rest) ← hexDigits? count rest
      return (d * Nat.pow 16 count + n, rest)

def scalarValue? (n : Nat) : Option Char := if n.isValidChar then some (Char.ofNat n) else none

/-- The character of an escape, after its backslash. -/
def escape (cs : List Char) : Option (Char × List Char) :=
  match cs with
  | [] => none
  | c :: rest =>
    if c = 'u' ∨ c = 'U' then do
      let (n, rest) ← hexDigits? (if c = 'u' then 4 else 8) rest
      let c ← scalarValue? n
      return (c, rest)
    else if c = '/' then none
    else (Json.escaped? c).map (·, rest)

/-- The rest of a text on one line with escapes. -/
def basic (fuel : Nat) (cs : List Char) : Option (List Char × List Char) :=
  match fuel, cs with
  | 0, _ => none
  | _, [] => none
  | fuel + 1, c :: rest =>
    if c = '"' then some ([], rest)
    else if c = '\\' then do
      let (c, rest) ← escape rest
      let (more, rest) ← basic fuel rest
      return (c :: more, rest)
    else if isPlain c then (basic fuel rest).map fun (more, rest) => (c :: more, rest)
    else none

/-- The rest of a text on one line without escapes. -/
def literal : List Char → Option (List Char × List Char)
  | [] => none
  | c :: rest =>
    if c = '\'' then some ([], rest)
    else if isPlain c then (literal rest).map fun (more, rest) => (c :: more, rest)
    else none

/-- The end of a text over several lines: three quotes, of which up to two more belong to the
text. -/
def closing? (quote : Char) (cs : List Char) : Option (List Char × List Char) :=
  let count := (cs.takeWhile (· == quote)).length
  if count < 3 then none
  else
    let extra := min (count - 3) 2
    some (List.replicate extra quote, cs.drop (3 + extra))

/-- The text after a backslash at the end of a line, which hides the white space that follows. -/
def continued? (cs : List Char) : Option (List Char) :=
  match newline? (skipSpace cs) with
  | some rest => some (rest.dropWhile fun c => isSpace c || c == '\n' || c == '\r')
  | none => none

/-- The rest of a text over several lines. Every newline counts as a line feed. -/
def multiline (quote : Char) (escapes : Bool) (fuel : Nat) (cs : List Char) :
    Option (List Char × List Char) :=
  match fuel, cs with
  | 0, _ => none
  | _, [] => none
  | fuel + 1, c :: rest =>
    match closing? quote (c :: rest) with
    | some closed => some closed
    | none =>
      if escapes && c == '\\' then
        match continued? rest with
        | some rest => multiline quote escapes fuel rest
        | none => do
          let (c, rest) ← escape rest
          let (more, rest) ← multiline quote escapes fuel rest
          return (c :: more, rest)
      else
        match newline? (c :: rest) with
        | some rest =>
          (multiline quote escapes fuel rest).map fun (more, rest) => ('\n' :: more, rest)
        | none =>
          if isPlain c then
            (multiline quote escapes fuel rest).map fun (more, rest) => (c :: more, rest)
          else none

/-- A quoted text. A newline right after three opening quotes does not count. -/
def text (fuel : Nat) (cs : List Char) : Option (List Char × List Char) :=
  match cs with
  | '"' :: '"' :: '"' :: rest => multiline '"' true fuel ((newline? rest).getD rest)
  | '\'' :: '\'' :: '\'' :: rest => multiline '\'' false fuel ((newline? rest).getD rest)
  | '"' :: rest => basic fuel rest
  | '\'' :: rest => literal rest
  | _ => none

/-- One part of a key. -/
def simpleKey (fuel : Nat) (cs : List Char) : Option (String × List Char) :=
  match cs with
  | '"' :: rest => (basic fuel rest).map fun (k, rest) => (String.ofList k, rest)
  | '\'' :: rest => (literal rest).map fun (k, rest) => (String.ofList k, rest)
  | _ =>
    let k := cs.takeWhile isBare
    if k.isEmpty then none else some (String.ofList k, cs.drop k.length)

/-- A key with its dotted parts. -/
def key (fuel : Nat) (cs : List Char) : Option (List String × List Char) :=
  match fuel with
  | 0 => none
  | fuel + 1 => do
    let (k, rest) ← simpleKey fuel (skipSpace cs)
    match skipSpace rest with
    | '.' :: rest =>
      let (more, rest) ← key fuel rest
      return (k :: more, rest)
    | rest => return ([k], rest)

/-- Digits with single underscores between them, without the underscores. -/
def underscored (isDigit : Char → Bool) (cs : List Char) : Option (List Char) :=
  match cs with
  | [] => none
  | [c] => if isDigit c then some [c] else none
  | c :: '_' :: rest => if isDigit c then (underscored isDigit rest).map (c :: ·) else none
  | c :: rest => if isDigit c then (underscored isDigit rest).map (c :: ·) else none

def isRadixDigit (radix : Nat) (c : Char) : Bool :=
  match Text.Hex.value? c with
  | some d => decide (d < radix)
  | none => false

def radixValue (radix : Nat) (ds : List Char) : Nat :=
  ds.foldl (fun n c => radix * n + (Text.Hex.value? c).getD 0) 0

/-- A whole number has to fit 64 bits with a sign. -/
def bounded? (n : Int) : Option Json :=
  let limit := Int.ofNat (1 <<< 63)
  if -limit ≤ n ∧ n < limit then some (.number (.int n)) else none

def splitSign : List Char → Bool × List Char
  | '+' :: rest => (false, rest)
  | '-' :: rest => (true, rest)
  | cs => (false, cs)

/-- A decimal number without sign: no digit follows a leading zero. -/
def decimalDigits? (cs : List Char) : Option (List Char) :=
  match underscored Char.isDigit cs with
  | some ('0' :: _ :: _) => none
  | ds => ds

def integer? (cs : List Char) : Option Json :=
  let radix (r : Nat) (cs : List Char) : Option Json :=
    (underscored (isRadixDigit r) cs).bind fun ds => bounded? (Int.ofNat (radixValue r ds))
  match cs with
  | '0' :: 'x' :: rest => radix 16 rest
  | '0' :: 'o' :: rest => radix 8 rest
  | '0' :: 'b' :: rest => radix 2 rest
  | _ =>
    let (negative, rest) := splitSign cs
    (decimalDigits? rest).bind fun ds =>
      let n := Int.ofNat (Json.Number.natOf ds)
      bounded? (if negative then -n else n)

/-- The double nearest to the digits as a whole number times `10 ^ places`. Far beyond all doubles
the power is not computed: what `k` digits name is zero or lies between `1` and `10 ^ k`. -/
def nearest (ds : List Char) (places : Int) : Float :=
  let n := Json.Number.natOf ds
  if n = 0 ∨ Int.ofNat ds.length + places < -400 then 0.0
  else if 400 < places then 1.0 / 0.0
  else Float.ofScientific n (decide (places < 0)) places.natAbs

/-- A number with a point or an exponent, or a word for the infinite and for what is no number.
Written in digits, a number without a minus sign may not be beyond all doubles. -/
def float? (cs : List Char) : Option Json := do
  let (negative, rest) := splitSign cs
  let sign (x : Float) : Json := .number (.float (Json.Number.signed negative x))
  if rest = "inf".toList then return sign (1.0 / 0.0)
  else if rest = "nan".toList then return sign (0.0 / 0.0)
  else
    let isMark (c : Char) : Bool := c == 'e' || c == 'E'
    let mantissa := rest.takeWhile fun c => !isMark c
    let whole ← decimalDigits? (mantissa.takeWhile (· != '.'))
    let fraction ← match mantissa.dropWhile (· != '.') with
      | [] => some none
      | _ :: ds => (underscored Char.isDigit ds).map some
    let exponent ← match rest.dropWhile fun c => !isMark c with
      | [] => some none
      | _ :: ds =>
        let (negative, ds) := splitSign ds
        (underscored Char.isDigit ds).map fun ds =>
          let e := Int.ofNat (Json.Number.natOf ds)
          some (if negative then -e else e)
    if fraction.isNone && exponent.isNone then none
    else
      let ds := fraction.getD []
      let x := nearest (whole ++ ds) (exponent.getD 0 - Int.ofNat ds.length)
      if x.isInf && !negative then none else return sign x

def twoDigits? (low high : Nat) : List Char → Option (Nat × List Char)
  | a :: b :: rest =>
    if a.isDigit && b.isDigit then
      let n := Json.Number.natOf [a, b]
      if low ≤ n ∧ n ≤ high then some (n, rest) else none
    else none
  | _ => none

/-- A date of four, two and two digits that exists. -/
def date? (cs : List Char) : Option (List Char) := do
  let year := cs.take 4
  if !(year.length == 4 && year.all Char.isDigit) then none
  else
    match cs.drop 4 with
    | '-' :: rest =>
      let (month, rest) ← twoDigits? 1 12 rest
      match rest with
      | '-' :: rest =>
        let y := Json.Number.natOf year
        let leap := y % 4 == 0 && (y % 100 != 0 || y % 400 == 0)
        let length := if month = 2 then (if leap then 29 else 28)
          else if month = 4 ∨ month = 6 ∨ month = 9 ∨ month = 11 then 30 else 31
        let (_, rest) ← twoDigits? 1 length rest
        return rest
      | _ => none
    | _ => none

/-- A time of day with seconds and an optional fraction. -/
def time? (cs : List Char) : Option (List Char) := do
  let (_, rest) ← twoDigits? 0 23 cs
  match rest with
  | ':' :: rest =>
    let (_, rest) ← twoDigits? 0 59 rest
    match rest with
    | ':' :: rest =>
      let (_, rest) ← twoDigits? 0 60 rest
      match rest with
      | '.' :: rest =>
        let ds := rest.takeWhile Char.isDigit
        if ds.isEmpty then none else some (rest.drop ds.length)
      | _ => some rest
    | _ => none
  | _ => none

def offset? (cs : List Char) : Option (List Char) :=
  match cs with
  | [] => some []
  | c :: rest =>
    if c = 'Z' ∨ c = 'z' then some rest
    else if c = '+' ∨ c = '-' then do
      let (_, rest) ← twoDigits? 0 23 rest
      match rest with
      | ':' :: rest => do
        let (_, rest) ← twoDigits? 0 59 rest
        return rest
      | _ => none
    else some (c :: rest)

/-- Whether a text is a date, a time of day, or both with an optional offset. -/
def isMoment (cs : List Char) : Bool :=
  match date? cs with
  | some [] => true
  | some (c :: rest) =>
    (c == 'T' || c == 't' || c == ' ') && ((time? rest).bind offset?) == some []
  | none => time? cs == some []

/-- Dates and times are no texts: they are kept as an object of one member. -/
def moment? (cs : List Char) : Option Json :=
  if isMoment cs then some (.object [("moment", .string (String.ofList cs))]) else none

def isScalarChar (c : Char) : Bool :=
  c.isAlphanum || c == '+' || c == '-' || c == '.' || c == '_' || c == ':'

/-- The word at the start of a text; a space inside a date belongs to it. -/
def word (cs : List Char) : List Char × List Char :=
  let w := cs.takeWhile isScalarChar
  match date? w, cs.drop w.length with
  | some [], ' ' :: c :: rest =>
    if c.isDigit then
      let more := (c :: rest).takeWhile isScalarChar
      (w ++ ' ' :: more, (c :: rest).drop more.length)
    else (w, ' ' :: c :: rest)
  | _, rest => (w, rest)

/-- A boolean, a number, a date or a time. -/
def scalar (cs : List Char) : Option (Json × List Char) :=
  let (w, rest) := word cs
  if w = "true".toList then some (.bool true, rest)
  else if w = "false".toList then some (.bool false, rest)
  else
    match moment? w with
    | some v => some (v, rest)
    | none =>
      match integer? w with
      | some v => some (v, rest)
      | none => (float? w).map (·, rest)

end StoryTrace.Toml
