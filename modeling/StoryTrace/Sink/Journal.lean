import StoryTrace.Event.Codec
import StoryTrace.Files.Lookup
import StoryTrace.Sink.Basic
import StoryTrace.Store.Replay
import StoryTrace.Supply

/-!
# Journals

A journal keeps events until a flush, which writes them to the end of a file, one event a line. The
file is a single one, or one for each day in a directory. Reading a journal gives back its events
in the order of the lines and passes over blank lines.
-/

namespace StoryTrace

/-- Where a journal writes: to one file at `path`, or to one file a day in the directory
`path`. -/
structure JournalPlan where
  path : String
  enabled : Bool
  single : Bool
  deriving DecidableEq, Repr

namespace JournalPlan

def session (path : String) : JournalPlan := ⟨path, true, true⟩

def daily (path : String) : JournalPlan := ⟨path, true, false⟩

/-- Accepts writes and keeps nothing. -/
def disabled : JournalPlan := ⟨"", false, false⟩

/-- The file for the day of the given instant. -/
def file (p : JournalPlan) (now : Instant) : String :=
  if p.single then p.path else Path.join p.path (Rfc3339.dayText now ++ ".jsonl")

/-- The directory of the journal. -/
def directory? (p : JournalPlan) : Option String :=
  if !p.enabled then none
  else if p.single then Path.parent? p.path
  else some p.path

end JournalPlan

structure Journal where
  plan : JournalPlan
  files : Files
  queue : List Event
  supply : Supply

namespace Journal

/-- A failure to read or write a file. -/
def fileError (path : String) : SinkError :=
  if Path.holdsNul path then .invalidPath "file name contained an unexpected NUL byte"
  else .file ("cannot access " ++ path)

/-- A journal with its directory made. -/
def start (plan : JournalPlan) (files : Files) (supply : Supply) : Except SinkError Journal :=
  match plan.directory? with
  | none => .ok ⟨plan, files, [], supply⟩
  | some directory =>
    let (files, made) := files.makeDirectories directory
    if made then .ok ⟨plan, files, [], supply⟩ else .error (fileError directory)

/-- The lines of the given events, each with its newline. -/
def linesText (events : List Event) : String := String.join (events.map fun e => e.line ++ "\n")

/-- The file that the next flush writes to. -/
def currentFile (j : Journal) : String := j.plan.file j.supply.takeTime.1

def enqueue (j : Journal) (w : Write) : Journal :=
  if j.plan.enabled then
    let (id, supply) := j.supply.takeId
    let (now, supply) := supply.takeTime
    { j with queue := j.queue ++ [Event.ofWrite w id now], supply }
  else j

/-- Writes the queued events to the file of the day. Events that could not be written are lost. -/
def writeOut (j : Journal) : Except SinkError Unit × Journal :=
  if j.queue.isEmpty then (.ok (), j)
  else
    let path := j.currentFile
    match j.files.append? path (linesText j.queue) with
    | some files => (.ok (), { j with files, queue := [] })
    | none => (.error (fileError path), { j with queue := [] })

instance : Sink Journal where
  name _ := "jsonl"
  send w j := (.ok (), j.enqueue w)
  flush := writeOut
  pending j := j.queue.length

/-- The events of a log, unless one of its lines is neither blank nor an event. -/
def readText (content : String) : Except SinkError (List Event) :=
  match ((Text.lines content).filter fun l => !Text.blank l).mapM Event.ofLine? with
  | some events => .ok events
  | none => .error (.unreadable "a line is not an event")

/-- The events of a log given as bytes, which have to be text. -/
def readBytes (bytes : ByteArray) : Except SinkError (List Event) :=
  match String.fromUTF8? bytes with
  | some content => readText content
  | none => .error (.file "the log is not text")

/-- The events of a log file. -/
def load (files : Files) (path : String) : Except SinkError (List Event) :=
  match files.read? path with
  | some content => readText content
  | none => .error (fileError path)

/-- The files of a journal, in the order of their names. -/
def logFiles (j : Journal) : Except SinkError (List String) :=
  if !j.plan.enabled then .ok []
  else if j.plan.single then .ok (if j.files.holds j.plan.path then [j.plan.path] else [])
  else
    match j.files.list? j.plan.path with
    | some names =>
      .ok ((names.filter (Path.hasExtension "jsonl")).map (Path.join j.plan.path))
    | none => .error (fileError j.plan.path)

end Journal

end StoryTrace
