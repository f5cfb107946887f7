import Std.Time.DateTime.Timestamp
import StoryTrace.Command.Reach
import StoryTrace.Text.Uuid

/-!
# The program

Gathers what an invocation looks at, performs it, and brings what comes of it to the files and the
terminal. No service is reached from here, so requests stay unanswered.
-/

namespace StoryTrace.Program

/-- Whether the directory that a place is in has its name. -/
def isListed (place : Place) : IO Bool := do
  let above := (← IO.currentDir) / ProgramConfig.placePath place.dropLast
  try return (← above.readDir).any fun e => some e.fileName == place.getLast?
  catch _ => return false

/-- What stands at a place. -/
def entryAt (place : Place) : IO (Option FileEntry) := do
  let path := (← IO.currentDir) / ProgramConfig.placePath place
  if ← path.isDir then return some .emptyDirectory
  else if ← path.pathExists then
    try return some (.text (← IO.FS.readFile path))
    catch _ => return some .binary
  else if ← isListed place then return some .hidden
  else return none

/-- Adds what stands at the places that a path passes. -/
def gather (f : Files) (path : String) : IO Files :=
  (f.passed path).foldlM (fun f place => do
    if (f.findAt? place).isSome then return f
    match ← entryAt place with
    | some entry => return f.putAt place entry
    | none => return f) f

def currentPlace : IO Place := do
  return Path.steps (← IO.currentDir).toString

partial def inputText (stream : IO.FS.Stream) : IO String := do
  let line ← stream.getLine
  if line.isEmpty then return "" else return line ++ (← inputText stream)

def environment : IO Lookup := do
  let values ← TracingConfig.variableNames.mapM fun name => do return (name, ← IO.getEnv name)
  return fun name => (values.lookup name).join

/-- Random ids, and a clock and a stopwatch that move by a microsecond with every reading. The clock
starts now. -/
def supply : IO Supply := do
  let bytes ← IO.getRandomBytes 16
  let bits := bytes.foldl (fun n b => n * 256 + b.toNat) 0
  let nanos := (← Std.Time.Timestamp.now).toNanosecondsSinceUnixEpoch.val
  let start : Instant := ⟨nanos / 1000000000, (nanos % 1000000000).toNat⟩
  let ids (n : Nat) : String := Text.Uuid.ofBits (bits + n)
  return (Supply.start ids fun n => start.addNanos (n * 1000)).withStopwatch (· * 1000)

def surroundings (args : List String) : IO Surroundings := do
  let records ← supply
  let events ← supply
  let unseen : Surroundings :=
    { environment := ← environment
      input := ""
      files := .ofCurrent (← currentPlace)
      records
      events
      replies := fun _ => .unreachable }
  match Invocation.ofArguments args with
  | .error _ => return unseen
  | .ok i =>
    let now := events.takeTime.1
    let files ← (i.settingsPaths unseen.files.current now).foldlM gather unseen.files
    let files ← (i.commandPaths files now).foldlM gather files
    let input ← if i.command.readsInput then inputText (← IO.getStdin) else pure ""
    return { unseen with input, files }

/-- Brings the changes of the files to the disk. -/
def writeBack (before after : Files) : IO Unit :=
  (after.root.places []).forM fun (place, entry) => do
    let path := ProgramConfig.placePath place
    match entry with
    | .directory _ => if !before.isDirectoryAt place then IO.FS.createDirAll path
    | .text content =>
      if (before.findAt? place).bind (·.text?) ≠ some content then IO.FS.writeFile path content
    | .binary | .hidden => return ()

end StoryTrace.Program

open StoryTrace in
def main (args : List String) : IO UInt32 := do
  let around ← Program.surroundings args
  let outcome := Invocation.performArguments args around
  Program.writeBack around.files outcome.files
  (← IO.getStdout).putStr outcome.output
  let errors ← IO.getStderr
  if let some failure := outcome.failure then errors.putStrLn ("Error: " ++ failure.message)
  if outcome.exitCode = 2 then errors.putStr Command.helpText
  return outcome.exitCode.toUInt32
