import StoryTrace.Table

/-!
# JSON values

A value as it was written: an object lists its members in written order and may repeat a key.
`canonical` is the value that such a text denotes, with sorted keys and the last of repeated
members; all values that the library builds for storing are canonical.
-/

namespace StoryTrace

/-- Whole numbers of 64 bits stay exact; every other number is a double. -/
inductive Json.Number where
  | int (n : Int)
  | float (x : Float)

inductive Json where
  | null
  | bool (b : Bool)
  | number (n : Json.Number)
  | string (s : String)
  | array (items : List Json)
  | object (members : List (String × Json))

instance : Inhabited Json := ⟨.null⟩

/-- Free-form data attached to records. -/
abbrev Metadata := Table Json

namespace Json

mutual

/-- The value with sorted and distinct keys in every object. -/
def canonical : Json → Json
  | .array items => .array (canonicalItems items)
  | .object members => .object (Table.ofList (canonicalMembers members))
  | v => v

def canonicalItems : List Json → List Json
  | [] => []
  | v :: rest => canonical v :: canonicalItems rest

def canonicalMembers : List (String × Json) → List (String × Json)
  | [] => []
  | (k, v) :: rest => (k, canonical v) :: canonicalMembers rest

end

def ofNat (n : Nat) : Json := .number (.int (Int.ofNat n))

/-- A number that is not finite becomes null. -/
def ofFloat (x : Float) : Json := if x.isFinite then .number (.float x) else .null

/-- An absent value is written as null. -/
def ofOption {α : Type} (write : α → Json) (x : Option α) : Json := (x.map write).getD .null

def ofStrings (xs : List String) : Json := .array (xs.map .string)

def isNull : Json → Bool
  | .null => true
  | _ => false

/-- The member of an object with the given key. -/
def field? (v : Json) (key : String) : Option Json :=
  match v with
  | .object members => Table.get? members key
  | _ => none

def string? : Json → Option String
  | .string s => some s
  | _ => none

def bool? : Json → Option Bool
  | .bool b => some b
  | _ => none

def array? : Json → Option (List Json)
  | .array items => some items
  | _ => none

def object? : Json → Option (List (String × Json))
  | .object members => some members
  | _ => none

/-- The members of an object, and none for any other value. -/
def membersOf (v : Json) : List (String × Json) := v.object?.getD []

/-- Any number, as a double. -/
def float? : Json → Option Float
  | .number (.float x) => some x
  | .number (.int n) => some (Float.ofInt n)
  | _ => none

/-- A whole number from zero to the given bound. -/
def natBelow? (bound : Nat) : Json → Option Nat
  | .number (.int n) => if 0 ≤ n ∧ n < bound then some n.toNat else none
  | _ => none

/-- A count of up to 64 bits. -/
def nat? : Json → Option Nat := natBelow? UInt64.size

/-- A count of up to 32 bits. -/
def nat32? : Json → Option Nat := natBelow? UInt32.size

/-- The texts of an array that holds texts only. -/
def strings? (v : Json) : Option (List String) := v.array?.bind (·.mapM string?)

/-- A free-form object, brought to canonical form. -/
def metadata? (v : Json) : Option Metadata :=
  match v with
  | .object members => some (Table.ofList (canonicalMembers members))
  | _ => none

@[simp] theorem string?_string (s : String) : string? (.string s) = some s := rfl

@[simp] theorem ofOption_none {α : Type} (write : α → Json) : ofOption write none = .null := rfl

@[simp] theorem ofOption_some {α : Type} (write : α → Json) (x : α) :
    ofOption write (some x) = write x := rfl

theorem nat?_ofNat {n : Nat} (h : n < UInt64.size) : nat? (ofNat n) = some n := by
  have : (Int.ofNat n) < (UInt64.size : Int) := by simpa using Int.ofNat_lt.2 h
  simp [nat?, ofNat, natBelow?]
  omega

end Json

end StoryTrace
