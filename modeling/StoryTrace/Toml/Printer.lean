import StoryTrace.Json.Printer
import StoryTrace.Text.Hex

/-!
# Writing TOML

Texts and booleans in tables of one level. A text stands between double quotes with escapes, or
between single quotes as it is, and three quotes can stand for one. The first way that needs no
escape is taken, and escapes are used where there is none.
-/

namespace StoryTrace.Toml

/-- The greatest number of copies of a character that follow one another. -/
def longestRun (q : Char) (count longest : Nat) : List Char → Nat
  | [] => max count longest
  | c :: rest =>
    if c = q then longestRun q (count + 1) longest rest
    else longestRun q 0 (max count longest) rest

/-- Characters that only an escape can write. -/
def needsEscape (c : Char) : Bool :=
  (c.toNat < 0x20 && c != '\t' && c != '\n') || c.toNat == 0x7F

/-- The quotes around a text: double or single ones, one or three of them. -/
inductive QuoteStyle where
  | double
  | single
  | tripleDouble
  | tripleSingle
  deriving DecidableEq, Repr

namespace QuoteStyle

def chars : QuoteStyle → List Char
  | .double => ['"']
  | .single => ['\'']
  | .tripleDouble => ['"', '"', '"']
  | .tripleSingle => ['\'', '\'', '\'']

def isTriple : QuoteStyle → Bool
  | .double => false
  | .single => false
  | .tripleDouble => true
  | .tripleSingle => true

/-- Whether escapes mean something between these quotes. -/
def escapes : QuoteStyle → Bool
  | .double => true
  | .single => false
  | .tripleDouble => true
  | .tripleSingle => false

/-- The quotes that a text is written with. -/
def ofText (cs : List Char) : QuoteStyle :=
  let lines := cs.any (· == '\n')
  let backslash := cs.any (· == '\\')
  let doubles := longestRun '"' 0 0 cs
  let singles := longestRun '\'' 0 0 cs
  let escaped := if lines then tripleDouble else double
  if cs.any needsEscape then escaped
  else if !backslash && doubles == 0 && !lines then double
  else if singles == 0 && !lines then single
  else if !backslash && doubles ≤ 2 then tripleDouble
  else if singles ≤ 2 then tripleSingle
  else escaped

end QuoteStyle

/-- A character between double quotes. Three quotes allow newlines between them. -/
def escapeChar (triple : Bool) (c : Char) : List Char :=
  if c = '\n' then (if triple then ['\n'] else ['\\', 'n'])
  else if c = '\t' then ['\\', 't']
  else if c = '\r' then ['\\', 'r']
  else if c = '\\' then ['\\', '\\']
  else if c.toNat = 8 then ['\\', 'b']
  else if c.toNat = 12 then ['\\', 'f']
  else if c.toNat < 0x20 || c.toNat == 0x7F then
    '\\' :: 'u' :: (Text.Hex.digits 4 c.toNat).map Char.toUpper
  else [c]

/-- A text between double quotes. Between three of them, two in a row are no end; `run` counts
the ones just before. -/
def escapeText (triple : Bool) (run : Nat) : List Char → List Char
  | [] => []
  | c :: rest =>
    if c = '"' then
      if triple && run < 2 then '"' :: escapeText triple (run + 1) rest
      else '\\' :: '"' :: escapeText triple 0 rest
    else escapeChar triple c ++ escapeText triple 0 rest

/-- A text with its quotes. A text of several lines starts on a line of its own. -/
def quote (s : String) : List Char :=
  let cs := s.toList
  let style := QuoteStyle.ofText cs
  let start := if style.isTriple && cs.any (· == '\n') then ['\n'] else []
  let body := if style.escapes then escapeText style.isTriple 0 cs else cs
  style.chars ++ start ++ body ++ style.chars

def pairLine (key : String) (value : List Char) : String :=
  key ++ " = " ++ String.ofList value ++ "\n"

def textLine (key value : String) : String := pairLine key (quote value)

def flagLine (key : String) (value : Bool) : String :=
  pairLine key (Json.print (.bool value))

/-- A table with its pairs. -/
def table (name : String) (pairs : List String) : String :=
  "[" ++ name ++ "]\n" ++ String.join pairs

/-- The tables of a document, an empty line between them. -/
def document (tables : List String) : String := String.intercalate "\n" tables

end StoryTrace.Toml
