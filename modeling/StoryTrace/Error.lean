/-!
# Failures

What can go wrong when traces are recorded, and the one text of each failure. Failures of files and
of unreadable data carry the words of the place where they arose.
-/

namespace StoryTrace

/-- A failure of a sink. -/
inductive SinkError where
  | configuration (text : String)
  | network (text : String)
  | rejected (status : Nat) (body : String)
  | unreadable (text : String)
  | file (text : String)
  /-- A path that no file can have. -/
  | invalidPath (text : String)
  | internal (text : String)
  deriving DecidableEq, Repr

def SinkError.message : SinkError → String
  | .configuration text => "Configuration error: " ++ text
  | .network text => "Network error: " ++ text
  | .rejected status body => "Remote rejected batch (" ++ toString status ++ "): " ++ body
  | .unreadable text => "Serialization error: " ++ text
  | .file text => "IO error: " ++ text
  | .invalidPath text => "IO error: " ++ text
  | .internal text => "Internal error: " ++ text

/-- A failure of story tracing: a trace that is not active, or a failure of the sink. -/
inductive StoryError where
  | unknownTrace (id : String)
  | sink (e : SinkError)
  deriving DecidableEq, Repr

def StoryError.message : StoryError → String
  | .unknownTrace id => "Unknown trace: " ++ id
  | .sink e => e.message

end StoryTrace
