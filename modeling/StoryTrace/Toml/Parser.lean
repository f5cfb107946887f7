import StoryTrace.Toml.Document
import StoryTrace.Toml.Lexical

/-!
# Reading TOML

A document is a sequence of headers and pairs, one a line. Values that are nested 80 levels deep or
more are refused. The readers spend one unit of `fuel` for every value, every separator, every
newline and every character of a text.
-/

namespace StoryTrace.Toml

/-- The inline table of pairs, whose dotted keys make tables of their own. -/
def inlineTable? (pairs : List (List String × Json)) : Option Json :=
  let assigned : Option Members :=
    pairs.foldlM (fun (ms : Members) (p : List String × Json) => ms.assign false true p.1 p.2) []
  assigned.map fun ms => .object (membersToJson ms)

/-- Arrays, inline tables and dotted keys may be nested this deep. -/
def maxDepth : Nat := 79

/-- The parts of a dotted key at the start of a text. -/
def path? (fuel : Nat) (cs : List Char) : Option (List String × List Char) :=
  (key fuel cs).filter fun found => found.1.length ≤ maxDepth

mutual

def value (fuel depth : Nat) (cs : List Char) : Option (Json × List Char) :=
  match fuel with
  | 0 => none
  | fuel + 1 =>
    match cs, depth with
    | '"' :: _, _ => (text fuel cs).map fun (s, rest) => (.string (String.ofList s), rest)
    | '\'' :: _, _ => (text fuel cs).map fun (s, rest) => (.string (String.ofList s), rest)
    | '[' :: _, 0 => none
    | '[' :: rest, depth + 1 => (items fuel depth rest).map fun (vs, rest) => (.array vs, rest)
    | '\x7b' :: _, 0 => none
    | '\x7b' :: rest, depth + 1 =>
      match skipSpace rest with
      | '\x7d' :: rest => some (.object [], rest)
      | rest => do
        let (pairs, rest) ← pairs fuel depth rest
        let v ← inlineTable? pairs
        return (v, rest)
    | _, _ => scalar cs

/-- The items of an array up to its closing bracket. A comma may follow the last item. -/
def items (fuel depth : Nat) (cs : List Char) : Option (List Json × List Char) :=
  match fuel with
  | 0 => none
  | fuel + 1 =>
    match skipBlank fuel cs with
    | ']' :: rest => some ([], rest)
    | cs => do
      let (v, rest) ← value fuel depth cs
      match skipBlank fuel rest with
      | ',' :: rest =>
        let (more, rest) ← items fuel depth rest
        return (v :: more, rest)
      | ']' :: rest => return ([v], rest)
      | _ => none

/-- The pairs of an inline table up to its closing brace. -/
def pairs (fuel depth : Nat) (cs : List Char) :
    Option ((List (List String × Json)) × List Char) :=
  match fuel with
  | 0 => none
  | fuel + 1 => do
    let (k, rest) ← path? fuel cs
    match rest with
    | '=' :: rest =>
      let (v, rest) ← value fuel depth (skipSpace rest)
      match skipSpace rest with
      | ',' :: rest =>
        let (more, rest) ← pairs fuel depth rest
        return ((k, v) :: more, rest)
      | '\x7d' :: rest => return ([(k, v)], rest)
      | _ => none
    | _ => none

end

/-- One header or pair. -/
def entry (fuel : Nat) (cs : List Char) : Option (Entry × List Char) :=
  match cs with
  | '[' :: '[' :: rest => do
    let (path, rest) ← path? fuel rest
    match rest with
    | ']' :: ']' :: rest => return (.headers path, rest)
    | _ => none
  | '[' :: rest => do
    let (path, rest) ← path? fuel rest
    match rest with
    | ']' :: rest => return (.header path, rest)
    | _ => none
  | _ => do
    let (path, rest) ← path? fuel cs
    match rest with
    | '=' :: rest =>
      let (v, rest) ← value fuel maxDepth (skipSpace rest)
      return (.pair path v, rest)
    | _ => none

/-- The entries of a document, each at the start of a line of its own. -/
def entries (fuel : Nat) (cs : List Char) : Option (List Entry) :=
  match fuel with
  | 0 => none
  | fuel + 1 =>
    match skipBlank fuel cs with
    | [] => some []
    | cs => do
      let (e, rest) ← entry fuel cs
      match skipComment (skipSpace rest) with
      | [] => return [e]
      | rest =>
        let rest ← newline? rest
        let more ← entries fuel rest
        return e :: more

/-- The document of a text, which may start with a byte order mark. -/
def parse? (s : String) : Option Json := do
  let cs := match s.toList with
    | '\uFEFF' :: rest => rest
    | cs => cs
  let es ← entries (cs.length + 2) cs
  let d ← Document.ofEntries? es
  return d.toJson

end StoryTrace.Toml
