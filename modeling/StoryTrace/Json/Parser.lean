import StoryTrace.Json.Number
import StoryTrace.Text.Hex

/-!
# Reading JSON

A reader of one JSON value. It keeps the members of an object in written order, repeated keys
included, and refuses values that are nested 128 levels deep or more. The readers spend one unit of
`fuel` for every character of a text, every value and every member; what is read never needs more
units than it has characters.
-/

namespace StoryTrace.Json

/-- The white space between the parts of a value. -/
def isSpace (c : Char) : Bool := c == ' ' || c == '\n' || c == '\t' || c == '\r'

def skipSpace (cs : List Char) : List Char := cs.dropWhile isSpace

def hex4? : List Char → Option (Nat × List Char)
  | a :: b :: c :: d :: rest => do
    let a ← Text.Hex.value? a
    let b ← Text.Hex.value? b
    let c ← Text.Hex.value? c
    let d ← Text.Hex.value? d
    return (((a * 16 + b) * 16 + c) * 16 + d, rest)
  | _ => none

/-- The character of an escape after its `u`; two escapes can name one character together. -/
def unicodeEscape? (cs : List Char) : Option (Char × List Char) := do
  let (high, rest) ← hex4? cs
  if 0xD800 ≤ high ∧ high < 0xDC00 then
    match rest with
    | '\\' :: 'u' :: rest =>
      let (low, rest) ← hex4? rest
      if 0xDC00 ≤ low ∧ low < 0xE000 then
        return (Char.ofNat (0x10000 + (high - 0xD800) * 0x400 + (low - 0xDC00)), rest)
      else none
    | _ => none
  else if 0xDC00 ≤ high ∧ high < 0xE000 then none
  else return (Char.ofNat high, rest)

/-- The character that a letter after a backslash stands for. -/
def escaped? (c : Char) : Option Char :=
  if c = '"' then some '"'
  else if c = '\\' then some '\\'
  else if c = '/' then some '/'
  else if c = 'b' then some (Char.ofNat 8)
  else if c = 'f' then some (Char.ofNat 12)
  else if c = 'n' then some '\n'
  else if c = 'r' then some '\r'
  else if c = 't' then some '\t'
  else none

/-- The text up to the closing quote. -/
def scanString (fuel : Nat) (cs : List Char) : Option (List Char × List Char) :=
  match fuel, cs with
  | 0, _ => none
  | _, [] => none
  | fuel + 1, c :: rest =>
    if c = '"' then some ([], rest)
    else if c = '\\' then
      match rest with
      | 'u' :: rest => do
        let (c, rest) ← unicodeEscape? rest
        let (more, rest) ← scanString fuel rest
        return (c :: more, rest)
      | c :: rest => do
        let c ← escaped? c
        let (more, rest) ← scanString fuel rest
        return (c :: more, rest)
      | [] => none
    else if c.toNat < 0x20 then none
    else do
      let (more, rest) ← scanString fuel rest
      return (c :: more, rest)

/-- A quoted text at the start of what is left. -/
def readString (fuel : Nat) (cs : List Char) : Option (String × List Char) :=
  match cs with
  | '"' :: rest => (scanString fuel rest).map fun (s, rest) => (String.ofList s, rest)
  | _ => none

/-- A quoted key and the colon after it. -/
def readKey (fuel : Nat) (cs : List Char) : Option (String × List Char) := do
  let (k, rest) ← readString fuel (skipSpace cs)
  match skipSpace rest with
  | ':' :: rest => return (k, rest)
  | _ => none

/-- Arrays and objects may be nested this deep. -/
def maxDepth : Nat := 127

mutual

def readValue (fuel depth : Nat) (cs : List Char) : Option (Json × List Char) :=
  match fuel with
  | 0 => none
  | fuel + 1 =>
    match skipSpace cs with
    | 'n' :: 'u' :: 'l' :: 'l' :: rest => some (.null, rest)
    | 't' :: 'r' :: 'u' :: 'e' :: rest => some (.bool true, rest)
    | 'f' :: 'a' :: 'l' :: 's' :: 'e' :: rest => some (.bool false, rest)
    | '"' :: rest => (readString fuel ('"' :: rest)).map fun (s, rest) => (.string s, rest)
    | '[' :: rest =>
      match depth with
      | 0 => none
      | depth + 1 =>
        match skipSpace rest with
        | ']' :: rest => some (.array [], rest)
        | rest => do
          let (v, rest) ← readValue fuel depth rest
          let (more, rest) ← readItems fuel depth rest
          return (.array (v :: more), rest)
    | '\x7b' :: rest =>
      match depth with
      | 0 => none
      | depth + 1 =>
        match skipSpace rest with
        | '\x7d' :: rest => some (.object [], rest)
        | rest => do
          let (k, rest) ← readKey fuel rest
          let (v, rest) ← readValue fuel depth rest
          let (more, rest) ← readMembers fuel depth rest
          return (.object ((k, v) :: more), rest)
    | cs => do
      let (w, rest) ← Number.scan cs
      let n ← w.number?
      return (.number n, rest)

/-- The items after the first, and what follows the closing bracket. -/
def readItems (fuel depth : Nat) (cs : List Char) : Option (List Json × List Char) :=
  match fuel with
  | 0 => none
  | fuel + 1 =>
    match skipSpace cs with
    | ']' :: rest => some ([], rest)
    | ',' :: rest => do
      let (v, rest) ← readValue fuel depth rest
      let (more, rest) ← readItems fuel depth rest
      return (v :: more, rest)
    | _ => none

/-- The members after the first, and what follows the closing brace. -/
def readMembers (fuel depth : Nat) (cs : List Char) : Option (List (String × Json) × List Char) :=
  match fuel with
  | 0 => none
  | fuel + 1 =>
    match skipSpace cs with
    | '\x7d' :: rest => some ([], rest)
    | ',' :: rest => do
      let (k, rest) ← readKey fuel rest
      let (v, rest) ← readValue fuel depth rest
      let (more, rest) ← readMembers fuel depth rest
      return ((k, v) :: more, rest)
    | _ => none

end

def parseChars? (cs : List Char) : Option Json :=
  match readValue (cs.length + 1) maxDepth cs with
  | some (v, rest) => if (skipSpace rest).isEmpty then some v else none
  | none => none

/-- The value that the whole text writes, as it is written. -/
def parse? (text : String) : Option Json := parseChars? text.toList

end StoryTrace.Json
