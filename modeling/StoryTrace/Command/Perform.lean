import StoryTrace.Command.Invocation
import StoryTrace.Demo
import StoryTrace.Story.Headers

/-!
# Performing commands

A command reads the environment, the input and the files it is given, and answers with an exit
code, what it writes, and the files as they are afterwards.
-/

namespace StoryTrace

/-- All that a command can see. -/
structure Surroundings where
  environment : Lookup
  input : String
  files : Files
  /-- Ids and times of records. -/
  records : Supply
  /-- Ids and times of events. -/
  events : Supply
  /-- What becomes of requests over the network. -/
  replies : Nat → Reply

/-- Why a command has failed: for a reason that it tells itself, or because a file or the network
did not let it. -/
inductive Failure where
  | told (text : String)
  | sink (e : SinkError)
  deriving DecidableEq, Repr

def Failure.message : Failure → String
  | .told text => text
  | .sink e => e.message

structure Outcome where
  /-- Zero for success, one for a failure and two for arguments that ask for nothing known. -/
  exitCode : Nat
  output : String
  failure : Option Failure
  files : Files

namespace Command

def programName : String := "fabula"

def version : String := "0.0.1"

def helpText : String := Text.joinLines [
  "Usage: fabula [OPTIONS] <COMMAND>",
  "",
  "Commands:",
  "  render   Render a trace log",
  "  headers  Print correlation headers, or parse them from the input",
  "  demo     Trace a demo pipeline and story into the configured sink",
  "  config   Show the resolved configuration",
  "  init     Make a .fabula directory with a config file",
  ""]

/-- The settings in force: those of the named file, or of the nearest one, with the directory that
they come from. A nearest file that cannot be used is passed over. -/
def settings (f : Files) (path : Option String) :
    Except Failure (ProgramConfig × Option String) :=
  match path with
  | some path =>
    let file := if f.isDirectory path then Path.join path ProgramConfig.fileName else path
    match ProgramConfig.load f file with
    | .ok c => .ok (c, some ((Path.parent? file).getD path))
    | .error e => .error (.told e.message)
  | none =>
    match ProgramConfig.discover f (ProgramConfig.placePath f.current) with
    | .ok (some (c, directory)) => .ok (c, some directory)
    | _ => .ok (.default, none)

/-- The tracing settings: the options win over the file, and the environment fills the rest. -/
def tracing (o : GlobalOptions) (c : ProgramConfig) (env : Lookup) : TracingConfig :=
  { c.tracing with
    sessionId := o.sessionId.orElse fun _ => c.tracing.sessionId
    storyId := o.storyId.orElse fun _ => c.tracing.storyId }.fill env

/-- What a command works with. -/
structure Context where
  around : Surroundings
  config : ProgramConfig
  directory : Option String
  tracing : TracingConfig

/-- What a command writes, and the files after it. -/
abbrev Result := Except Failure (String × Files)

def printed (c : Context) (text : String) : Result := .ok (text, c.around.files)

def line (text : String) : String := text ++ "\n"

def performRender (c : Context) (file : String) (format : RenderFormat) (traceId : Option String) :
    Result :=
  match Journal.load c.around.files file with
  | .error _ => .error (.told ("Failed to read trace log: " ++ file))
  | .ok events =>
    match Report.render c.around.records.takeTime.1 events format traceId with
    | .error e => .error (.told e.message)
    | .ok text => printed c (line text)

def performHeaders (c : Context) (traceId parentSpanId : Option String) (extract : Bool) : Result :=
  if extract then
    printed c (line (CorrelationContext.ofHeaders (.ofText c.around.input)).toJson.pretty)
  else
    let ids : CorrelationContext :=
      { traceId := traceId.orElse fun _ => c.tracing.traceId
        storyId := c.tracing.storyId
        sessionId := c.tracing.sessionId
        parentSpanId }
    if ids.traceId.isNone then
      .error (.told "No trace ID. Pass --trace-id or set COAIAPY_TRACE_ID.")
    else printed c (String.join (ids.toHeaders.lines.map line))

/-- The id of the story that the demonstration tells if no other is set. -/
def demoStory : String := "demo_story"

def summaryText (s : Demo.Summary) : String :=
  String.join (([
    "Pipeline trace: " ++ s.pipelineTraceId,
    "Story trace:    " ++ s.storyTraceId] ++ s.headers.lines.map ("  " ++ ·)).map line)

/-- Demonstrates with a sink, flushes it, and takes the files out of it. -/
def demonstrate {σ : Type} [Sink σ] (c : Context) (sink : σ) (filesOf : σ → Files) : Result :=
  match Demo.perform c.tracing (c.tracing.storyId.getD demoStory) sink c.around.records with
  | (.error (.sink e), _) => .error (.sink e)
  | (.error e, _) => .error (.told e.message)
  | (.ok summary, sink) =>
    match Sink.flush sink with
    | (.error _, _) => .error (.told "Failed to flush traces")
    | (.ok (), sink) => .ok (summaryText summary, filesOf sink)

/-- The journal that a demonstration writes to: a given file, or what the settings describe. -/
def demoPlan (config : ProgramConfig) (directory output : Option String) : JournalPlan :=
  match output with
  | some path => .session path
  | none => config.journal directory

def performDemo (c : Context) (sink : Option SinkKind) (output : Option String) : Result :=
  match sink.getD c.config.output.sink with
  | .jsonl =>
    match Journal.start (demoPlan c.config c.directory output) c.around.files c.around.events with
    | .error e => .error (.sink e)
    | .ok journal => demonstrate c journal (·.files)
  | .langfuse =>
    match c.tracing.endpoint with
    | .error _ => .error (.told "Langfuse sink selected but credentials are missing")
    | .ok endpoint =>
      demonstrate c (Batch.start endpoint c.around.events c.around.replies) fun _ => c.around.files

/-- The first characters of a secret. -/
def masked (secret : String) : String := String.ofList (secret.toList.take 6) ++ "…"

/-- The settings as they are shown: with all sources, the output path, and without secrets. -/
def shown (c : Context) : ProgramConfig :=
  { tracing :=
      { c.tracing with
        publicKey := c.tracing.publicKey.map masked
        secretKey := c.tracing.secretKey.map masked }
    output := { c.config.output with path := c.config.outputPath c.directory } }

def origin (c : Context) : String :=
  match c.directory with
  | some directory => "# Loaded from " ++ Path.join directory ProgramConfig.fileName
  | none => "# No .fabula/config.toml found, using defaults"

def performConfig (c : Context) : Result :=
  let warnings := (c.config.warnings c.tracing).map fun w => line ("# warning: " ++ w.text)
  printed c (line (origin c) ++ (shown c).toText ++ String.join warnings)

/-- The settings file that a new directory gets. -/
def settingsFile : String := Path.join ProgramConfig.directoryName ProgramConfig.fileName

def performInit (c : Context) (force : Bool) : Result :=
  let files := c.around.files
  if files.holds settingsFile && !force then
    .error (.told ".fabula/config.toml already exists. Use --force to overwrite.")
  else
    let (files, made) :=
      if files.holds ProgramConfig.directoryName then (files, true)
      else files.makeDirectories ProgramConfig.directoryName
    match if made then files.write? settingsFile ProgramConfig.template else none with
    | none => .error (.sink (Journal.fileError settingsFile))
    | some files => .ok (line ("Initialized " ++ settingsFile), files)

def performIn (c : Context) : Command → Result
  | .render file format traceId => performRender c file format traceId
  | .headers traceId parentSpanId extract => performHeaders c traceId parentSpanId extract
  | .demo sink output => performDemo c sink output
  | .config => performConfig c
  | .init force => performInit c force

end Command

namespace Invocation

/-- The program's own log of the day. -/
def logFile (directory : String) (now : Instant) : String :=
  Path.join directory ("fabula.log." ++ Rfc3339.dayText now)

/-- The surroundings with the directory for the program's own log and the log in it, as far as they
can be made. Nothing is written to the log. -/
def withLog (o : GlobalOptions) (s : Surroundings) : Surroundings :=
  match o.logDirectory with
  | none => s
  | some directory =>
    let (files, made) := s.files.makeDirectories directory
    let log := logFile directory s.events.takeTime.1
    { s with files := if made then (files.append? log "").getD files else files }

def perform (i : Invocation) (s : Surroundings) : Outcome :=
  let s := withLog i.options s
  let result : Command.Result :=
    (Command.settings s.files i.options.config).bind fun (config, directory) =>
      let tracing := Command.tracing i.options config s.environment
      Command.performIn ⟨s, config, directory, tracing⟩ i.command
  match result with
  | .ok (output, files) => ⟨0, output, none, files⟩
  | .error failure => ⟨1, "", some failure, s.files⟩

/-- What comes of calling the program with arguments. -/
def performArguments (args : List String) (s : Surroundings) : Outcome :=
  match ofArguments args with
  | .ok i => i.perform s
  | .error .misuse => ⟨2, "", none, s.files⟩
  | .error .help => ⟨0, Command.helpText, none, s.files⟩
  | .error .version =>
    ⟨0, Command.line (Command.programName ++ " " ++ Command.version), none, s.files⟩

end Invocation

end StoryTrace
