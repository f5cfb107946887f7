import StoryTrace.Json.Value

/-!
# Reading records

The fields of a record are found by name in an object, or by position in an array that lists them.
A field that an object repeats is an error, and members that no field names are ignored.
-/

namespace StoryTrace.Json

inductive Layout where
  | named (members : List (String × Json))
  | listed (items : List Json)

namespace Layout

/-- The fields of a record that has at most `most` fields, of which a list gives at least
`least`. -/
def of? (least most : Nat) : Json → Option Layout
  | .object members => some (.named members)
  | .array items =>
    if least ≤ items.length ∧ items.length ≤ most then some (.listed items) else none
  | _ => none

/-- The fields of a record that is written as an object only. -/
def ofObject? : Json → Option Layout
  | .object members => some (.named members)
  | _ => none

/-- The value of a field, if there is exactly one; the field may be absent but not repeated. -/
def slot? (l : Layout) (index : Nat) (key : String) : Option (Option Json) :=
  match l with
  | .named members =>
    match members.filter (·.1 = key) with
    | [] => some none
    | [(_, v)] => some (some v)
    | _ => none
  | .listed items => some items[index]?

variable {α : Type}

/-- A field that has to be present. -/
def required (l : Layout) (index : Nat) (key : String) (read : Json → Option α) : Option α :=
  (l.slot? index key).bind fun v => v.bind read

/-- A field with a value for its absence. -/
def withDefault (l : Layout) (index : Nat) (key : String) (absent : α)
    (read : Json → Option α) : Option α :=
  (l.slot? index key).bind fun v =>
    match v with
    | none => some absent
    | some v => read v

/-- A field that may be absent or null. -/
def optional (l : Layout) (index : Nat) (key : String) (read : Json → Option α) :
    Option (Option α) :=
  l.withDefault index key none fun v => if v.isNull then some none else (read v).map some

/-- A free-form field. Its null counts as absent. -/
def optionalValue (l : Layout) (index : Nat) (key : String) : Option (Option Json) :=
  l.optional index key fun v => some v.canonical

/-- A field whose absent value is the empty table. -/
def metadata (l : Layout) (index : Nat) (key : String) : Option Metadata :=
  l.withDefault index key [] metadata?

end Layout

/-- One of the named alternatives, given as its name or as an object from its name to null. -/
def choice? {α : Type} (names : List (String × α)) : Json → Option α
  | .string s => names.lookup s
  | .object [(s, .null)] => names.lookup s
  | _ => none

/-- The member of an object for a value that may be absent. -/
def given (key : String) : Option Json → List (String × Json)
  | none => []
  | some v => [(key, v)]

/-- The member of an object for a table, left out when the table is empty. -/
def filled (key : String) (m : Metadata) : List (String × Json) :=
  if m.isEmpty then [] else [(key, .object m)]

end StoryTrace.Json
