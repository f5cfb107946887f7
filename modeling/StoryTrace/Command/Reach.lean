import StoryTrace.Command.Perform

/-!
# What an invocation looks at

The paths that an invocation can read or write, and whether it reads its input, so that all of it
can be gathered before the invocation is performed.
-/

namespace StoryTrace

namespace Files

/-- The places that steps from a place lead to, one after the other. -/
def placesFrom (place : Place) : List String → List Place
  | [] => []
  | step :: rest => beside place step :: placesFrom (beside place step) rest

/-- The places that a path passes, whether or not something stands there. -/
def passed (f : Files) (path : String) : List Place := placesFrom (f.start path) (Path.steps path)

end Files

namespace Command

/-- The files of a command under the given settings. -/
def paths (config : ProgramConfig) (directory : Option String) (now : Instant) :
    Command → List String
  | .render file _ _ => [file]
  | .demo _ output => [(demoPlan config directory output).file now]
  | .init _ => [settingsFile]
  | .headers _ _ _ => []
  | .config => []

def readsInput : Command → Bool
  | .headers _ _ extract => extract
  | _ => false

end Command

namespace Invocation

/-- The settings files that can count, and the program's own log. -/
def settingsPaths (i : Invocation) (current : Place) (now : Instant) : List String :=
  let settings := match i.options.config with
    | some path => [path, Path.join path ProgramConfig.fileName]
    | none => (Path.upwards (ProgramConfig.placePath current)).map ProgramConfig.fileIn
  settings ++ (i.options.logDirectory.map (logFile · now)).toList

/-- The files of the command, once the settings files are gathered. -/
def commandPaths (i : Invocation) (f : Files) (now : Instant) : List String :=
  match Command.settings f i.options.config with
  | .ok (config, directory) => i.command.paths config directory now
  | .error _ => []

end Invocation

end StoryTrace
