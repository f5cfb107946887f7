import StoryTrace.Json.Number
import StoryTrace.Text.Hex

/-!
# Writing JSON

The compact form has no space between its parts. The indented form puts every element of a
non-empty array or object on a line of its own, two spaces deeper than the brackets.
-/

namespace StoryTrace.Json

/-- A character inside quotes. Quotes, backslashes and control characters are escaped. -/
def escape (c : Char) : List Char :=
  if c = '"' then ['\\', '"']
  else if c = '\\' then ['\\', '\\']
  else if c = '\n' then ['\\', 'n']
  else if c = '\r' then ['\\', 'r']
  else if c = '\t' then ['\\', 't']
  else if c.toNat = 8 then ['\\', 'b']
  else if c.toNat = 12 then ['\\', 'f']
  else if c.toNat < 0x20 then '\\' :: 'u' :: Text.Hex.digits 4 c.toNat
  else [c]

def quote (s : String) : List Char := '"' :: (s.toList.flatMap escape ++ ['"'])

mutual

/-- The compact form. -/
def print : Json → List Char
  | .null => ['n', 'u', 'l', 'l']
  | .bool true => ['t', 'r', 'u', 'e']
  | .bool false => ['f', 'a', 'l', 's', 'e']
  | .number n => n.chars
  | .string s => quote s
  | .array [] => ['[', ']']
  | .array (v :: rest) => '[' :: (print v ++ printItems rest)
  | .object [] => ['\x7b', '\x7d']
  | .object ((k, v) :: rest) => '\x7b' :: (quote k ++ ':' :: (print v ++ printMembers rest))

/-- The items after the first, up to the closing bracket. -/
def printItems : List Json → List Char
  | [] => [']']
  | v :: rest => ',' :: (print v ++ printItems rest)

/-- The members after the first, up to the closing brace. -/
def printMembers : List (String × Json) → List Char
  | [] => ['\x7d']
  | (k, v) :: rest => ',' :: (quote k ++ ':' :: (print v ++ printMembers rest))

end

/-- The start of a line at the given depth. -/
def newline (depth : Nat) : List Char := '\n' :: List.replicate (2 * depth) ' '

mutual

/-- The indented form of a value whose brackets stand at the given depth. -/
def printIndented (depth : Nat) : Json → List Char
  | .array (v :: rest) =>
    '[' :: (newline (depth + 1) ++ printIndented (depth + 1) v ++ printIndentedItems depth rest)
  | .object ((k, v) :: rest) =>
    '\x7b' :: (newline (depth + 1) ++ quote k ++ ':' :: ' ' ::
      (printIndented (depth + 1) v ++ printIndentedMembers depth rest))
  | v => print v

def printIndentedItems (depth : Nat) : List Json → List Char
  | [] => newline depth ++ [']']
  | v :: rest =>
    ',' :: (newline (depth + 1) ++ printIndented (depth + 1) v ++ printIndentedItems depth rest)

def printIndentedMembers (depth : Nat) : List (String × Json) → List Char
  | [] => newline depth ++ ['\x7d']
  | (k, v) :: rest =>
    ',' :: (newline (depth + 1) ++ quote k ++ ':' :: ' ' ::
      (printIndented (depth + 1) v ++ printIndentedMembers depth rest))

end

/-- The value on one line. -/
def compress (v : Json) : String := String.ofList (print v)

/-- The value over several lines. -/
def pretty (v : Json) : String := String.ofList (printIndented 0 v)

end StoryTrace.Json
