import StoryTrace.Json.Value

/-!
# TOML documents

The tables of a document while it is read. A table is defined once: by a header, by the longer
headers of tables inside it, or by dotted keys, and these ways do not mix.
-/

namespace StoryTrace.Toml

inductive Node where
  | value (v : Json)
  | table (implicit dotted : Bool) (members : List (String × Node))
  | tables (items : List (List (String × Node)))

abbrev Members := List (String × Node)

mutual

def Node.toJson : Node → Json
  | .value v => v
  | .table _ _ members => .object (membersToJson members)
  | .tables items => .array (tablesToJson items)

def membersToJson : List (String × Node) → List (String × Json)
  | [] => []
  | (k, n) :: rest => (k, n.toJson) :: membersToJson rest

def tablesToJson : List (List (String × Node)) → List Json
  | [] => []
  | t :: rest => .object (membersToJson t) :: tablesToJson rest

end

namespace Members

/-- The members with one of them set, at its place or at the end. -/
def set (ms : Members) (key : String) (n : Node) : Members :=
  match ms with
  | [] => [(key, n)]
  | (k, old) :: rest => if k = key then (key, n) :: rest else (k, old) :: set rest key n

/-- Changes the last of several tables. -/
def changeLast (items : List Members) (change : Members → Option Members) :
    Option (List Members) :=
  match items with
  | [] => none
  | [t] => (change t).map ([·])
  | t :: rest => (changeLast rest change).map (t :: ·)

/-- Changes the table that a header path leads to. Missing tables on the way are made. -/
def descend (ms : Members) (path : List String) (change : Members → Option Members) :
    Option Members :=
  match path with
  | [] => change ms
  | key :: rest =>
    match ms.lookup key with
    | none => (descend [] rest change).map fun t => set ms key (.table true false t)
    | some (.value _) => none
    | some (.tables items) =>
      (changeLast items fun t => descend t rest change).map fun items => set ms key (.tables items)
    | some (.table implicit dotted t) =>
      (descend t rest change).map fun t => set ms key (.table implicit dotted t)

/-- Defines the table of a header. It may exist as a step to longer headers only. -/
def define (ms : Members) (key : String) : Option Members :=
  match ms.lookup key with
  | none => some (set ms key (.table false false []))
  | some (.table true false t) => some (set ms key (.table false false t))
  | _ => none

/-- Adds one more table to the tables of a key. -/
def extend (ms : Members) (key : String) : Option Members :=
  match ms.lookup key with
  | none => some (set ms key (.tables [[]]))
  | some (.tables items) => some (set ms key (.tables (items ++ [[]])))
  | _ => none

/-- Sets a dotted key inside a table, of which is known whether dotted keys made it. Tables on the
way are made by the dotted key or were made by others. -/
def assign (ms : Members) (dotted : Bool) (first : Bool) (path : List String) (v : Json) :
    Option Members :=
  match path with
  | [] => none
  | [key] =>
    if dotted = first then none
    else
      match ms.lookup key with
      | none => some (ms ++ [(key, .value v)])
      | some _ => none
  | key :: rest =>
    match ms.lookup key with
    | none => (assign [] true false rest v).map fun t => set ms key (.table true true t)
    | some (.value _) => none
    | some (.tables items) =>
      (changeLast items fun t => assign t false false rest v).map fun items =>
        set ms key (.tables items)
    | some (.table true dotted t) =>
      (assign t dotted false rest v).map fun t => set ms key (.table true dotted t)
    | some (.table false _ _) => none

end Members

/-- A part of a document: a header of a table, a header of one of several tables, or a key with its
value. -/
inductive Entry where
  | header (path : List String)
  | headers (path : List String)
  | pair (path : List String) (v : Json)

/-- What has been read of a document: its members and the path of the table that is open. -/
structure Document where
  members : Members
  current : List String

namespace Document

def empty : Document := ⟨[], []⟩

def add (d : Document) : Entry → Option Document
  | .header path =>
    (d.members.descend path.dropLast fun t => t.define (path.getLastD "")).map fun ms => ⟨ms, path⟩
  | .headers path =>
    (d.members.descend path.dropLast fun t => t.extend (path.getLastD "")).map fun ms => ⟨ms, path⟩
  | .pair path v =>
    (d.members.descend d.current fun t => t.assign false true path v).map fun ms =>
      ⟨ms, d.current⟩

def ofEntries? (entries : List Entry) : Option Document := entries.foldlM add .empty

def toJson (d : Document) : Json := .object (membersToJson d.members)

end Document

end StoryTrace.Toml
