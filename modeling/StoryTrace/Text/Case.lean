import StoryTrace.Text.Case.Ranges

/-!
# Title case

Each word of a title starts with the upper case of its first letter and goes on in lower case.
Words are separated by single spaces, and both cases follow the full Unicode mappings, in which
one letter can have a case of several characters.
-/

namespace StoryTrace.Text

namespace Case

def Run.holds (r : Run) (n : Nat) : Bool :=
  r.first ≤ n && n ≤ r.last && (n - r.first) % r.step == 0

/-- The other case of a letter: a spelling of its own if it has one, else the letter moved by the
run it belongs to, else the letter itself. -/
def convert (spellings : List (Nat × List Nat)) (runs : List Run) (c : Char) : List Char :=
  match spellings.lookup c.toNat with
  | some cs => cs.map Char.ofNat
  | none =>
    match runs.find? (·.holds c.toNat) with
    | some r => [Char.ofNat (Int.ofNat c.toNat + r.shift).toNat]
    | none => [c]

end Case

def upperOf (c : Char) : List Char := Case.convert Case.upperSpellings Case.upperRuns c

def lowerOf (c : Char) : List Char := Case.convert Case.lowerSpellings Case.lowerRuns c

/-- The word in title case. -/
def titleWord : List Char → List Char
  | [] => []
  | c :: rest => upperOf c ++ rest.flatMap lowerOf

/-- The parts of the text between its separators, in order. -/
def splitAt (separator : Char) : List Char → List (List Char)
  | [] => [[]]
  | c :: rest =>
    match splitAt separator rest with
    | [] => []
    | part :: more => if c = separator then [] :: part :: more else (c :: part) :: more

def titleCase (s : String) : String :=
  String.ofList (List.intercalate [' '] ((splitAt ' ' s.toList).map titleWord))

/-- The text with spaces in place of its underscores. -/
def spaced (s : String) : String :=
  String.ofList (s.toList.map fun c => if c = '_' then ' ' else c)

end StoryTrace.Text
