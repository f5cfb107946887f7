import StoryTrace.Command.Arguments
import StoryTrace.Config.Program
import StoryTrace.Report.Render

/-!
# Invocations

What the command line asks for. Options that hold for every command may stand before or after its
name, and the ones after it count.
-/

namespace StoryTrace

/-- The options that hold for every command. -/
structure GlobalOptions where
  verbose : Bool
  config : Option String
  logDirectory : Option String
  sessionId : Option String
  storyId : Option String
  deriving DecidableEq, Repr

inductive Command where
  /-- Renders a log, or one trace of it. -/
  | render (file : String) (format : RenderFormat) (traceId : Option String)
  /-- Writes correlation headers, or reads them from the input. -/
  | headers (traceId parentSpanId : Option String) (extract : Bool)
  /-- Records a demonstration into the sink of the settings or another one. -/
  | demo (sink : Option SinkKind) (output : Option String)
  /-- Shows the settings. -/
  | config
  /-- Makes a settings file. -/
  | init (force : Bool)
  deriving DecidableEq, Repr

structure Invocation where
  options : GlobalOptions
  command : Command
  deriving DecidableEq, Repr

namespace Invocation

def globalOptions : List OptionSpec := [
  { name := "verbose", short := some 'v' },
  { name := "config", value := some .path },
  { name := "log-dir", value := some .path },
  { name := "session-id", value := some .text },
  { name := "story-id", value := some .text }]

/-- What stands before the name of the command. -/
def outerLevel : ArgumentLevel := ⟨globalOptions, [], true⟩

def innerLevel (words : List ValueShape) (options : List OptionSpec) : ArgumentLevel :=
  ⟨globalOptions ++ options, words, false⟩

def renderLevel : ArgumentLevel := innerLevel [.path] [
  { name := "format", value := some (.choice (RenderFormat.names.map (·.1))) },
  { name := "trace", value := some .text }]

def headersLevel : ArgumentLevel := innerLevel [] [
  { name := "trace-id", value := some .text },
  { name := "parent-span-id", value := some .text },
  { name := "extract" }]

def demoLevel : ArgumentLevel := innerLevel [] [
  { name := "sink", value := some (.choice (SinkKind.names.map (·.1))) },
  { name := "output", value := some .path }]

def configLevel : ArgumentLevel := innerLevel [] []

def initLevel : ArgumentLevel := innerLevel [] [{ name := "force" }]

def levels : List (String × ArgumentLevel) :=
  [("render", renderLevel), ("headers", headersLevel), ("demo", demoLevel), ("config", configLevel),
    ("init", initLevel)]

/-- The command with the given name and arguments. -/
def commandOf? (name : String) (g : Given) : Option Command :=
  match name, g.words with
  | "render", [file] =>
    some (.render file (((g.value? "format").bind RenderFormat.ofText?).getD .tree)
      (g.value? "trace"))
  | "headers", [] =>
    some (.headers (g.value? "trace-id") (g.value? "parent-span-id") (g.hasFlag "extract"))
  | "demo", [] =>
    some (.demo ((g.value? "sink").bind fun s => SinkKind.names.lookup s) (g.value? "output"))
  | "config", [] => some .config
  | "init", [] => some (.init (g.hasFlag "force"))
  | _, _ => none

def optionsOf (outer inner : Given) : GlobalOptions :=
  let value (name : String) : Option String :=
    (inner.value? name).orElse fun _ => outer.value? name
  { verbose := inner.hasFlag "verbose" || outer.hasFlag "verbose"
    config := value "config"
    logDirectory := value "log-dir"
    sessionId := value "session-id"
    storyId := value "story-id" }

/-- The word help asks for help, on everything or on one command. -/
def helpOn : List String → Interruption
  | [] => .help
  | [name] => if name = "help" || (levels.lookup name).isSome then .help else .misuse
  | _ => .misuse

/-- What the arguments ask for. -/
def ofArguments (args : List String) : Except Interruption Invocation := do
  let (outer, rest) ← Given.empty.read outerLevel args
  match rest with
  | [] => throw .misuse
  | name :: rest =>
    if name = "help" then throw (helpOn rest)
    match levels.lookup name with
    | none => throw .misuse
    | some level =>
      let (inner, _) ← Given.empty.read level rest
      match commandOf? name inner with
      | none => throw .misuse
      | some command => return ⟨optionsOf outer inner, command⟩

end Invocation

end StoryTrace
