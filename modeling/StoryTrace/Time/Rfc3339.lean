import StoryTrace.Text.Blank
import StoryTrace.Time.Calendar

/-!
# RFC 3339 times

Times are written in UTC with as many fraction digits as needed, in groups of three. The reader is
lenient: it accepts single digits, a space for the `T`, white space between the parts, any offset
of less than a day and a leap second at the end of any minute.
-/

namespace StoryTrace

namespace Rfc3339

/-- A number with leading zeros up to the given width. -/
def padded (width n : Nat) : List Char :=
  let ds := Nat.toDigits 10 n
  List.replicate (width - ds.length) '0' ++ ds

/-- Years of four digits stand alone, others have a sign. -/
def yearText (year : Int) : List Char :=
  if 0 ≤ year ∧ year ≤ 9999 then padded 4 year.toNat
  else (if year < 0 then '-' else '+') :: padded 4 year.natAbs

def dateText (d : Date) : List Char :=
  yearText d.year ++ '-' :: padded 2 d.month ++ '-' :: padded 2 d.day

def clockText (t : Instant) : List Char :=
  let s := t.secondOfDay.toNat
  padded 2 (s / 3600) ++ ':' :: padded 2 (s / 60 % 60) ++ ':' ::
    padded 2 (s % 60 + t.nano / 1000000000)

def fractionText (t : Instant) : List Char :=
  let n := t.nano % 1000000000
  if n = 0 then []
  else if n % 1000000 = 0 then '.' :: padded 3 (n / 1000000)
  else if n % 1000 = 0 then '.' :: padded 6 (n / 1000)
  else '.' :: padded 9 n

def chars (t : Instant) (zone : List Char) : List Char :=
  dateText (.ofInstant t) ++ 'T' :: clockText t ++ fractionText t ++ zone

/-- The time with a `Z` for UTC. -/
def text (t : Instant) : String := String.ofList (chars t ['Z'])

/-- The time with the offset of UTC in digits. -/
def offsetText (t : Instant) : String := String.ofList (chars t "+00:00".toList)

/-- The date alone. -/
def dayText (t : Instant) : String := String.ofList (dateText (.ofInstant t))

/-- The time of day to the millisecond. -/
def timeOfDayText (t : Instant) : String :=
  String.ofList (clockText t ++ '.' :: padded 3 (t.nano / 1000000 % 1000))

/-- At least one and at most `most` digits, with their value and what follows. -/
def number (most : Nat) (cs : List Char) : Option (Nat × List Char) :=
  let ds := (cs.take most).takeWhile Char.isDigit
  if ds.isEmpty then none
  else some (ds.foldl (fun n c => 10 * n + (c.toNat - '0'.toNat)) 0, cs.drop ds.length)

/-- A number after optional white space. -/
def item (most : Nat) (cs : List Char) : Option (Nat × List Char) :=
  number most (Text.trimStart cs)

/-- A given character after optional white space. -/
def mark (c : Char) (cs : List Char) : Option (List Char) :=
  match Text.trimStart cs with
  | [] => none
  | d :: rest => if d = c then some rest else none

def year (cs : List Char) : Option (Int × List Char) :=
  match Text.trimStart cs with
  | '-' :: rest => (number rest.length rest).map fun (n, rest) => (-Int.ofNat n, rest)
  | '+' :: rest => (number rest.length rest).map fun (n, rest) => (Int.ofNat n, rest)
  | cs => (number 4 cs).map fun (n, rest) => (Int.ofNat n, rest)

/-- The nanoseconds of a fraction, of which nine digits count. -/
def fraction (cs : List Char) : Option (Nat × List Char) :=
  match cs with
  | '.' :: rest => do
    let (n, after) ← number 9 rest
    let taken := rest.length - after.length
    return (n * Nat.pow 10 (9 - taken), after.dropWhile Char.isDigit)
  | _ => some (0, cs)

/-- A digit pair, such as the hours of an offset. -/
def pair (cs : List Char) : Option (Nat × List Char) :=
  match cs with
  | a :: b :: rest =>
    if a.isDigit && b.isDigit then
      some ((a.toNat - '0'.toNat) * 10 + (b.toNat - '0'.toNat), rest)
    else none
  | _ => none

/-- The seconds that local time is ahead of UTC. -/
def offset (cs : List Char) : Option (Int × List Char) :=
  match cs with
  | [] => none
  | c :: rest =>
    if c = 'Z' ∨ c = 'z' then some (0, rest)
    else if c = '+' ∨ c = '-' ∨ c = '−' then do
      let (hours, rest) ← pair rest
      let (minutes, rest) ← pair (rest.dropWhile fun c => c == ':' || Text.isBlank c)
      if minutes < 60 then
        let seconds := Int.ofNat (hours * 3600 + minutes * 60)
        return (if c = '+' then seconds else -seconds, rest)
      else none
    else none

/-- The offset or the name of UTC in any case. -/
def zone (cs : List Char) : Option (Int × List Char) :=
  if (cs.take 3).map Char.toUpper = ['U', 'T', 'C'] then some (0, cs.drop 3) else offset cs

/-- The instant that a local date and time of day with an offset name. The date has to lie in the
range of years both in local time and in UTC. -/
def assemble (d : Date) (hour minute second nano : Nat) (ahead : Int) : Option Instant :=
  if d.valid && decide (hour < 24) && decide (minute < 60) && decide (second ≤ 60) &&
      decide (ahead.natAbs < 86400) then
    let leap := second / 60
    let ofDay := Int.ofNat (hour * 3600 + minute * 60 + (second - leap))
    let t : Instant := ⟨d.toDays * 86400 + ofDay - ahead, nano + leap * 1000000000⟩
    if Date.yearRange (Date.ofInstant t).year then some t else none
  else none

def readChars (cs : List Char) : Option Instant := do
  let (year, cs) ← year cs
  let cs ← mark '-' cs
  let (month, cs) ← item 2 cs
  let cs ← mark '-' cs
  let (day, cs) ← item 2 cs
  let cs ← match cs with
    | c :: rest => if c = 'T' ∨ c = 't' ∨ c = ' ' then some rest else none
    | [] => none
  let (hour, cs) ← item 2 cs
  let cs ← mark ':' cs
  let (minute, cs) ← item 2 cs
  let cs ← mark ':' cs
  let (second, cs) ← item 2 cs
  let (nano, cs) ← fraction cs
  let (ahead, cs) ← zone (Text.trimStart cs)
  if cs.all Text.isBlank then assemble ⟨year, month, day⟩ hour minute second nano ahead else none

/-- The instant that a text names. -/
def read? (s : String) : Option Instant := readChars s.toList

end Rfc3339

end StoryTrace
