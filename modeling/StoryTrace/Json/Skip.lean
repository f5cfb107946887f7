import StoryTrace.Json.Parser

/-!
# Skipping JSON

A value that nobody asks for is skipped, and then only its form counts: numbers may have any size,
escapes may name halves of characters, and values may be nested to any depth. The brackets that are
open are kept in a list, the innermost one first, so that every step is taken on the text alone.
-/

namespace StoryTrace.Json

inductive Bracket where
  | array
  | object
  deriving DecidableEq, Repr

/-- A text on its way through a value, with the brackets that are open. -/
inductive Skipping where
  /-- A value has to come next. -/
  | value (opened : List Bracket) (cs : List Char)
  /-- A value has come to its end. -/
  | ended (opened : List Bracket) (cs : List Char)

/-- What follows a quoted text, after its opening quote. -/
def skipString : List Char → Option (List Char)
  | [] => none
  | '"' :: rest => some rest
  | '\\' :: 'u' :: a :: b :: c :: d :: rest =>
    if [a, b, c, d].all fun h => (Text.Hex.value? h).isSome then skipString rest else none
  | '\\' :: c :: rest => if (escaped? c).isSome then skipString rest else none
  | c :: rest => if c = '\\' ∨ c.toNat < 0x20 then none else skipString rest

/-- What follows a key and its colon. -/
def skipKey (cs : List Char) : Option (List Char) :=
  match skipSpace cs with
  | '"' :: rest => do
    match skipSpace (← skipString rest) with
    | ':' :: rest => return rest
    | _ => none
  | _ => none

/-- What follows a text, a number or a word. -/
def skipScalar (cs : List Char) : Option (List Char) :=
  match cs with
  | 'n' :: 'u' :: 'l' :: 'l' :: rest => some rest
  | 't' :: 'r' :: 'u' :: 'e' :: rest => some rest
  | 'f' :: 'a' :: 'l' :: 's' :: 'e' :: rest => some rest
  | '"' :: rest => skipString rest
  | cs => (Number.scan cs).map (·.2)

namespace Skipping

/-- Passes one bracket, one comma or one value without parts. -/
def step? : Skipping → Option Skipping
  | .value opened cs =>
    match skipSpace cs with
    | '[' :: rest =>
      match skipSpace rest with
      | ']' :: rest => some (.ended opened rest)
      | rest => some (.value (.array :: opened) rest)
    | '\x7b' :: rest =>
      match skipSpace rest with
      | '\x7d' :: rest => some (.ended opened rest)
      | rest => (skipKey rest).map (.value (.object :: opened))
    | cs => (skipScalar cs).map (.ended opened)
  | .ended [] _ => none
  | .ended (.array :: outer) cs =>
    match skipSpace cs with
    | ',' :: rest => some (.value (.array :: outer) rest)
    | ']' :: rest => some (.ended outer rest)
    | _ => none
  | .ended (.object :: outer) cs =>
    match skipSpace cs with
    | ',' :: rest => (skipKey rest).map (.value (.object :: outer))
    | '\x7d' :: rest => some (.ended outer rest)
    | _ => none

/-- What is left when no bracket is open any more. Every step passes at least one character. -/
def rest? (fuel : Nat) (s : Skipping) : Option (List Char) :=
  match fuel with
  | 0 => none
  | fuel + 1 =>
    match s with
    | .ended [] rest => some rest
    | s =>
      match s.step? with
      | some next => rest? fuel next
      | none => none

end Skipping

/-- What follows a value, of which only the form is checked. -/
def skipValue (fuel : Nat) (cs : List Char) : Option (List Char) :=
  Skipping.rest? (fuel + 1) (.value [] cs)

/-- The members of an object up to its closing brace, without those that have none of the given
names. -/
def readNamed (names : List String) (fuel : Nat) (cs : List Char) :
    Option (List (String × Json) × List Char) :=
  match fuel with
  | 0 => none
  | fuel + 1 => do
    let (k, rest) ← readKey fuel cs
    let (found, rest) ←
      if names.contains k then
        (readValue fuel (maxDepth - 1) rest).map fun (v, rest) => ([(k, v)], rest)
      else (skipValue fuel rest).map fun rest => ([], rest)
    match skipSpace rest with
    | '\x7d' :: rest => return (found, rest)
    | ',' :: rest =>
      let (more, rest) ← readNamed names fuel rest
      return (found ++ more, rest)
    | _ => none

/-- The value that the whole text writes. Of an object only the members with the given names are
read, and the others are skipped. -/
def parseNamed? (names : List String) (text : String) : Option Json :=
  let cs := text.toList
  match skipSpace cs with
  | '\x7b' :: rest =>
    match skipSpace rest with
    | '\x7d' :: rest => if (skipSpace rest).isEmpty then some (.object []) else none
    | rest => do
      let (members, rest) ← readNamed names (cs.length + 1) rest
      if (skipSpace rest).isEmpty then some (.object members) else none
  | _ => parseChars? cs

end StoryTrace.Json
