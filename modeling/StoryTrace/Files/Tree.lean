import StoryTrace.Table

/-!
# File trees

The directories and files that a program can see. A place is the list of names that leads to it
from the root, which is a directory.
-/

namespace StoryTrace

/-- What stands at a place. A file that does not hold text cannot be read. -/
inductive FileEntry where
  | directory (entries : List (String × FileEntry))
  | text (content : String)
  | binary
  /-- A link to where the program may not look, so that it cannot tell what is there, if anything. -/
  | hidden

abbrev Place := List String

namespace FileEntry

def emptyDirectory : FileEntry := .directory []

def isDirectory : FileEntry → Bool
  | .directory _ => true
  | _ => false

def isHidden : FileEntry → Bool
  | .hidden => true
  | _ => false

def text? : FileEntry → Option String
  | .text content => some content
  | _ => none

/-- The names in a directory, in order. -/
def names? : FileEntry → Option (List String)
  | .directory entries => some (Table.keys entries)
  | _ => none

/-- What stands at a place below. -/
def find? (e : FileEntry) (place : Place) : Option FileEntry :=
  match place with
  | [] => some e
  | name :: rest =>
    match e with
    | .directory entries => (Table.get? entries name).bind fun e => find? e rest
    | _ => none
termination_by structural place

/-- Puts something at a place below, with directories on the way to it. Nothing can be put below a
file. -/
def put (new e : FileEntry) (place : Place) : FileEntry :=
  match place with
  | [] => new
  | name :: rest =>
    match e with
    | .directory entries =>
      .directory (Table.put entries name
        (put new ((Table.get? entries name).getD emptyDirectory) rest))
    | e => e
termination_by structural place

/-- Whether a directory stands at a place below. -/
def isDirectoryAt (e : FileEntry) (place : Place) : Bool := (e.find? place).any isDirectory

mutual

/-- Every place below with what stands there, a directory before the places in it. -/
def places (place : Place) : FileEntry → List (Place × FileEntry)
  | .directory entries => (place, .directory entries) :: placesIn place entries
  | e => [(place, e)]

def placesIn (place : Place) : List (String × FileEntry) → List (Place × FileEntry)
  | [] => []
  | (name, e) :: rest => places (place ++ [name]) e ++ placesIn place rest

end

theorem isDirectoryAt_cons (e : FileEntry) (name : String) (place : Place) :
    e.isDirectoryAt (name :: place) =
      match e with
      | .directory entries => (Table.get? entries name).any (·.isDirectoryAt place)
      | _ => false := by
  cases e with
  | directory entries =>
    simp only [isDirectoryAt, find?]
    cases Table.get? entries name <;> rfl
  | _ => rfl

/-- A directory lies in directories. -/
theorem isDirectoryAt_dropLast {e : FileEntry} {place : Place} (h : e.isDirectoryAt place = true) :
    e.isDirectoryAt place.dropLast = true := by
  induction place generalizing e with
  | nil => exact h
  | cons name rest ih =>
    cases rest with
    | nil =>
      rw [isDirectoryAt_cons] at h
      cases e <;> simp_all [isDirectoryAt, find?, isDirectory]
    | cons next more =>
      rw [isDirectoryAt_cons] at h
      cases e with
      | directory entries =>
        simp only [Option.any_eq_true] at h
        obtain ⟨c, hc, hd⟩ := h
        simp only [List.dropLast_cons_cons, isDirectoryAt_cons, hc, Option.any_some]
        exact ih hd
      | _ => simp at h

/-- What was put into a directory is found there. -/
theorem find?_put_self {new e : FileEntry} {place : Place} {name : String}
    (h : e.isDirectoryAt place = true) : (put new e (place ++ [name])).find? (place ++ [name]) =
      some new := by
  induction place generalizing e with
  | nil =>
    cases e with
    | directory entries => simp [put, find?]
    | _ => simp [isDirectoryAt, find?, isDirectory] at h
  | cons step rest ih =>
    rw [isDirectoryAt_cons] at h
    cases e with
    | directory entries =>
      simp only [Option.any_eq_true] at h
      obtain ⟨c, hc, hd⟩ := h
      simp [put, find?, hc, ih hd]
    | _ => simp at h

/-- Putting a file where no directory stands changes no directory into a file, nor a file into a
directory. -/
theorem isDirectoryAt_put {new e : FileEntry} {place other : Place} {name : String}
    (hnew : new.isDirectory = false) (h : e.isDirectoryAt place = true)
    (hold : e.isDirectoryAt (place ++ [name]) = false) :
    (put new e (place ++ [name])).isDirectoryAt other = e.isDirectoryAt other := by
  induction place generalizing e other with
  | nil =>
    cases e with
    | directory entries =>
      cases other with
      | nil => rfl
      | cons first rest =>
        simp only [List.nil_append, put, isDirectoryAt_cons, Table.get?_put]
        by_cases hn : name = first
        · subst hn
          simp only [List.nil_append, isDirectoryAt_cons] at hold
          cases rest with
          | nil =>
            cases hg : Table.get? entries name with
            | none => simpa [isDirectoryAt, find?] using hnew
            | some c => simp_all [isDirectoryAt, find?]
          | cons more tail =>
            have hfile : new.isDirectoryAt (more :: tail) = false := by
              cases new <;> simp_all [isDirectoryAt, find?, isDirectory]
            cases hg : Table.get? entries name with
            | none => simpa using hfile
            | some c =>
              have : c.isDirectory = false := by simpa [hg, isDirectoryAt, find?] using hold
              have hc : c.isDirectoryAt (more :: tail) = false := by
                cases c <;> simp_all [isDirectoryAt, find?, isDirectory]
              simp [hfile, hc]
        · simp [hn]
    | _ => simp [isDirectoryAt, find?, isDirectory] at h
  | cons step rest ih =>
    rw [isDirectoryAt_cons] at h
    cases e with
    | directory entries =>
      simp only [Option.any_eq_true] at h
      obtain ⟨c, hc, hd⟩ := h
      cases other with
      | nil => rfl
      | cons first tail =>
        simp only [List.cons_append, put, isDirectoryAt_cons, Table.get?_put, hc, Option.getD_some]
        by_cases hs : step = first
        · subst hs
          have hold : c.isDirectoryAt (rest ++ [name]) = false := by
            simpa [isDirectoryAt_cons, hc] using hold
          simp [hc, ih hd hold]
        · simp [hs]
    | _ => simp at h

end FileEntry

end StoryTrace
