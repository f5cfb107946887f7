import StoryTrace.Config.Tracing
import StoryTrace.Files.Lookup
import StoryTrace.Sink.Journal
import StoryTrace.Toml.Parser
import StoryTrace.Toml.Printer

/-!
# Program settings

The settings file has a table for tracing and one for output. It lies in a directory `.fabula`,
which is looked for upwards from a starting place; the nearest one counts.
-/

namespace StoryTrace

inductive SinkKind where
  | jsonl
  | langfuse
  deriving DecidableEq, Repr

namespace SinkKind

def text : SinkKind → String
  | .jsonl => "jsonl"
  | .langfuse => "langfuse"

def names : List (String × SinkKind) := [("jsonl", .jsonl), ("langfuse", .langfuse)]

/-- A kind is given by its name, or as an empty table under its name. -/
def ofJson? : Json → Option SinkKind
  | .string s => names.lookup s
  | .object [(s, .object [])] => names.lookup s
  | .object [(s, .array [])] => names.lookup s
  | _ => none

end SinkKind

structure OutputConfig where
  sink : SinkKind
  path : String
  sessionMode : Bool
  deriving DecidableEq, Repr

namespace OutputConfig

def default : OutputConfig := ⟨.jsonl, "traces", false⟩

def ofLayout? (l : Json.Layout) : Option OutputConfig := do
  let sink ← l.withDefault 0 "sink" default.sink SinkKind.ofJson?
  let path ← l.withDefault 1 "path" default.path Json.string?
  let sessionMode ← l.withDefault 2 "session_mode" default.sessionMode Json.bool?
  return { sink, path, sessionMode }

def toJson (c : OutputConfig) : Json :=
  .object [("sink", .string c.sink.text), ("path", .string c.path),
    ("session_mode", .bool c.sessionMode)]

end OutputConfig

structure ProgramConfig where
  tracing : TracingConfig
  output : OutputConfig
  deriving DecidableEq, Repr

/-- A settings file that cannot be read, or that holds no settings. -/
inductive ConfigError where
  | unreadable (path : String)
  | malformed (path : String)
  deriving DecidableEq, Repr

def ConfigError.message : ConfigError → String
  | .unreadable path => "Failed to read config file: " ++ path
  | .malformed path => "Failed to parse config file: " ++ path

/-- A setting that the program cannot work with. -/
structure ConfigWarning where
  field : String
  message : String
  deriving DecidableEq, Repr

def ConfigWarning.text (w : ConfigWarning) : String := w.field ++ ": " ++ w.message

namespace ProgramConfig

def directoryName : String := ".fabula"

def fileName : String := "config.toml"

def default : ProgramConfig := ⟨.default, .default⟩

/-- The settings file of a new directory. -/
def template : String := Text.joinLines [
  "# fabula configuration",
  "# Paths are relative to this .fabula/ directory unless absolute.",
  "# Environment variables (LANGFUSE_*, COAIAPY_*, NARRATIVE_STORY_ID) fill",
  "# anything left unset here.",
  "",
  "[tracing]",
  "# host = \"https://cloud.langfuse.com\"",
  "# public_key = \"pk-lf-...\"",
  "# secret_key = \"sk-lf-...\"",
  "# session_id = \"my-session\"",
  "# story_id = \"story_001\"",
  "trace_name = \"🧠 Callback Execution\"",
  "flush_on_close = true",
  "",
  "[output]",
  "sink = \"jsonl\"  # Options: \"jsonl\", \"langfuse\"",
  "path = \"traces\"  # Daily files in .fabula/traces/",
  "session_mode = false  # true: \x60path\x60 is a single file",
  ""]

/-- The fields of a table. A list gives the first ones and may be longer. -/
def fields? (v : Json) : Option Json.Layout :=
  match v with
  | .object members => some (.named members)
  | .array items => some (.listed items)
  | _ => none

def ofJson? (v : Json) : Option ProgramConfig := do
  let l ← fields? v
  let tracing ← l.withDefault 0 "tracing" .default fun v => (fields? v).bind TracingConfig.ofLayout?
  let output ← l.withDefault 1 "output" .default fun v => (fields? v).bind OutputConfig.ofLayout?
  return { tracing, output }

/-- The settings that a text of the file format gives. -/
def ofText? (content : String) : Option ProgramConfig := (Toml.parse? content).bind ofJson?

def toJson (c : ProgramConfig) : Json :=
  .object [("tracing", c.tracing.toJson), ("output", c.output.toJson)]

/-- The settings in the file format. Unset fields are left out. -/
def toText (c : ProgramConfig) : String :=
  let line (key : String) (v : Option String) : List String :=
    (v.map (Toml.textLine key)).toList
  Toml.document [
    Toml.table "tracing" (line "host" c.tracing.host ++ line "public_key" c.tracing.publicKey ++
      line "secret_key" c.tracing.secretKey ++ line "session_id" c.tracing.sessionId ++
      line "trace_id" c.tracing.traceId ++ line "story_id" c.tracing.storyId ++
      [Toml.textLine "trace_name" c.tracing.traceName,
        Toml.flagLine "flush_on_close" c.tracing.flushOnClose]),
    Toml.table "output" [Toml.textLine "sink" c.output.sink.text,
      Toml.textLine "path" c.output.path, Toml.flagLine "session_mode" c.output.sessionMode]]

/-- Reads the settings file at a path. -/
def load (f : Files) (path : String) : Except ConfigError ProgramConfig :=
  match f.read? path with
  | none => .error (.unreadable path)
  | some content =>
    match ofText? content with
    | none => .error (.malformed path)
    | some c => .ok c

/-- A place as an absolute path. -/
def placePath (place : Place) : String := "/" ++ String.intercalate "/" place

/-- The settings directory that a directory may hold. -/
def directoryIn (path : String) : String := Path.join path directoryName

/-- The settings file that a directory may hold. -/
def fileIn (path : String) : String := Path.join (directoryIn path) fileName

/-- The settings of the nearest directory upwards that has a settings file, with the path of the
settings directory. A file that cannot be used is an error, and farther files do not count. -/
def discover (f : Files) (start : String) : Except ConfigError (Option (ProgramConfig × String)) :=
  if f.holds (fileIn start) then
    (load f (fileIn start)).map fun c => some (c, directoryIn start)
  else
    match _h : Path.parent? start with
    | none => .ok none
    | some above => discover f above
termination_by start.length
decreasing_by exact Path.length_lt_of_parent? _h

/-- The output path, which lies below the settings directory unless it is absolute. -/
def outputPath (c : ProgramConfig) (directory : Option String) : String :=
  Path.join (directory.getD directoryName) c.output.path

/-- The journal that the output settings describe. -/
def journal (c : ProgramConfig) (directory : Option String) : JournalPlan :=
  if c.output.sessionMode then .session (c.outputPath directory)
  else .daily (c.outputPath directory)

def isHttp (host : String) : Bool :=
  "http://".toList.isPrefixOf host.toList || "https://".toList.isPrefixOf host.toList

/-- What is wrong with the settings, given the tracing settings after all sources. -/
def warnings (c : ProgramConfig) (tracing : TracingConfig) : List ConfigWarning :=
  (if c.output.sink = .langfuse ∧ !tracing.hasCredentials then
    [⟨"tracing.public_key", "Langfuse sink needs credentials. " ++
      "Set [tracing] public_key/secret_key or LANGFUSE_PUBLIC_KEY/LANGFUSE_SECRET_KEY."⟩]
  else []) ++
  (match tracing.host with
  | some host =>
    if isHttp host then []
    else [⟨"tracing.host", "Invalid host '" ++ host ++ "'. Expected an http(s) URL."⟩]
  | none => []) ++
  (if c.output.path = "" then [⟨"output.path", "Output path cannot be empty."⟩] else [])

theorem outputPath_of_isAbsolute {c : ProgramConfig} {directory : Option String}
    (h : Path.isAbsolute c.output.path = true) : c.outputPath directory = c.output.path :=
  Path.join_of_isAbsolute h

end ProgramConfig

end StoryTrace
