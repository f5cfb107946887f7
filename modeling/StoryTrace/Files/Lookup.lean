import StoryTrace.Files.Path
import StoryTrace.Files.Tree

/-!
# Looking up paths

A path is followed step by step. Every step starts from a directory that exists, also one that
leads up, so a path through a file or a missing name leads nowhere. Only the last step may lead to
a place where nothing stands yet.
-/

namespace StoryTrace

/-- A file tree, with the directory that relative paths start from. -/
structure Files where
  root : FileEntry
  current : Place

namespace Files

/-- A tree with nothing in it but the current directory. -/
def ofCurrent (current : Place) : Files :=
  ⟨FileEntry.emptyDirectory.put .emptyDirectory current, current⟩

def findAt? (f : Files) (place : Place) : Option FileEntry := f.root.find? place

def isDirectoryAt (f : Files) (place : Place) : Bool := f.root.isDirectoryAt place

def putAt (f : Files) (place : Place) (e : FileEntry) : Files :=
  { f with root := FileEntry.put e f.root place }

/-- The place where a path starts. -/
def start (f : Files) (path : String) : Place := if Path.isAbsolute path then [] else f.current

/-- The place that a step leads to, whether or not something stands there. -/
def beside (place : Place) (step : String) : Place :=
  if step = "." then place
  else if step = ".." then place.dropLast
  else place ++ [step]

/-- A step from a directory. -/
def step? (f : Files) (place : Place) (step : String) : Option Place :=
  if f.isDirectoryAt place && decide (step.utf8ByteSize ≤ Path.nameLimit) then
    some (beside place step)
  else none

/-- The place that a path names. -/
def place? (f : Files) (path : String) : Option Place :=
  if Path.isUsable path then (Path.steps path).foldlM f.step? (f.start path) else none

/-- What a path names, as far as that can be told. -/
def find? (f : Files) (path : String) : Option FileEntry :=
  ((f.place? path).bind f.findAt?).filter fun e =>
    !e.isHidden && (e.isDirectory || !Path.endsInSlash path)

def holds (f : Files) (path : String) : Bool := (f.find? path).isSome

def isDirectory (f : Files) (path : String) : Bool := (f.find? path).any (·.isDirectory)

/-- The text of a file. -/
def read? (f : Files) (path : String) : Option String := (f.find? path).bind (·.text?)

/-- The names in a directory, in order. -/
def list? (f : Files) (path : String) : Option (List String) := (f.find? path).bind (·.names?)

/-- Whether a text can be put at a place that is there. -/
def isWritableAt (f : Files) (place : Place) : Bool :=
  (f.findAt? place).all fun e => !e.isDirectory && !e.isHidden

/-- Writes a file into an existing directory. -/
def write? (f : Files) (path content : String) : Option Files :=
  if Path.endsInSlash path then none
  else ((f.place? path).filter f.isWritableAt).map fun place => f.putAt place (.text content)

/-- Writes at the end of a file, which is created if it is absent. -/
def append? (f : Files) (path content : String) : Option Files :=
  match f.find? path with
  | some (.text before) => f.write? path (before ++ content)
  | some _ => none
  | none => f.write? path content

/-- A step from a place, if it is known, that makes the directory it leads to. -/
def makeStep (s : Files × Option Place) (step : String) : Files × Option Place :=
  match s.2.bind fun place => s.1.step? place step with
  | none => (s.1, none)
  | some place =>
    match s.1.findAt? place with
    | none => (s.1.putAt place .emptyDirectory, some place)
    | some e => (s.1, if e.isDirectory then some place else none)

/-- Makes the directories that a path leads through and the one that it names, and says whether
this was possible. What was made before an obstacle stays. -/
def makeDirectories (f : Files) (path : String) : Files × Bool :=
  if path.isEmpty then (f, true)
  else if Path.isUsable path then
    let f := ((Path.toMake path).foldl makeStep (f, some (f.start path))).1
    (f, f.isDirectory path)
  else (f, false)

end Files

end StoryTrace
