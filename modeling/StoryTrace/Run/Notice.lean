import StoryTrace.Json.Layout
import StoryTrace.Record.Basic
import StoryTrace.Run.Kind

/-!
# Notices

A host program tells that a run has started, and later that it has ended or failed. Each notice
names its run; a start also names the run that it is part of, and carries what the span of the run
will show.
-/

namespace StoryTrace

/-- Runs are named by the host program. -/
abbrev RunId := String

structure ChatMessage where
  role : String
  content : Json

def ChatMessage.toJson (m : ChatMessage) : Json :=
  .object [("content", m.content), ("role", .string m.role)]

structure Document where
  content : String
  metadata : Metadata

def Document.toJson (d : Document) : Json :=
  .object [("metadata", .object d.metadata), ("page_content", .string d.content)]

/-- What a run works on. -/
inductive RunInput where
  | prompts (texts : List String)
  | messages (lists : List (List ChatMessage))
  | inputs (value : Json)
  | text (text : String)
  | query (text : String)

namespace RunInput

/-- The input as its span shows it. -/
def payload : RunInput → Json
  | .prompts texts => .ofStrings texts
  | .messages lists => .array (lists.map fun l => .array (l.map ChatMessage.toJson))
  | .inputs v => v
  | .text s => .string s
  | .query s => .object [("query", .string s)]

/-- The number of chat messages, for an input that consists of them. -/
def messageCount? : RunInput → Option Nat
  | .messages lists => some lists.flatten.length
  | _ => none

end RunInput

/-- A run has started. -/
structure RunStart where
  run : RunId
  parent : Option RunId
  kind : OperationKind
  /-- What the host program says about the component that runs. -/
  descriptor : Json
  input : RunInput
  tags : List String
  metadata : Metadata
  name : Option String

namespace RunStart

/-- A start with nothing said but what runs and on what. -/
def new (run : RunId) (kind : OperationKind) (input : RunInput) : RunStart :=
  ⟨run, none, kind, .object [], input, [], [], none⟩

/-- The name that the descriptor gives. -/
def describedName? (s : RunStart) : Option String := (s.descriptor.field? "name").bind Json.string?

/-- The last part of the path that the descriptor gives. -/
def describedPath? (s : RunStart) : Option String :=
  (((s.descriptor.field? "id").bind Json.array?).bind (·.getLast?)).bind Json.string?

def modelName? (s : RunStart) : Option String :=
  (s.metadata.get? "ls_model_name").bind Json.string?

/-- The name of the run: the given one, or else the one that its kind takes from the metadata or
the descriptor, or else the name of the kind. -/
def displayName (s : RunStart) : String :=
  match s.name with
  | some name => name
  | none =>
    let found := match s.kind with
      | .completion | .chat => s.modelName?
      | .chain => s.describedName?.orElse fun _ => s.describedPath?
      | .tool | .retriever => s.describedName?
      | .agent | .generic => none
    found.getD s.kind.fallbackName

/-- The name of the span of the run. -/
def spanName (s : RunStart) : String := s.kind.decorate s.displayName

/-- The metadata of the span of the run. What the host program gives wins. -/
def spanMetadata (s : RunStart) : Metadata :=
  (Table.ofList ([("tags", .ofStrings s.tags), ("serialized", s.descriptor)] ++
    Json.given "message_count" (s.input.messageCount?.map .ofNat))).merge s.metadata

end RunStart

/-- What a run has produced. -/
inductive RunOutput where
  | generations (texts : List (List String)) (usage : Option Usage)
  | documents (documents : List Document)
  | value (value : Json)

namespace RunOutput

/-- The output as the span shows it. -/
def payload : RunOutput → Json
  | .generations texts _ => .ofStrings texts.flatten
  | .documents ds =>
    .object [("count", .ofNat ds.length), ("documents", .array (ds.map Document.toJson))]
  | .value v => v

def usage? : RunOutput → Option Usage
  | .generations _ usage => usage
  | _ => none

end RunOutput

/-- The token counts that a model reports beside its output, if it reports any. -/
def Usage.ofModelOutput? (v : Json) : Option Usage :=
  (v.field? "token_usage").bind fun counts =>
    let count (key : String) : Option Nat := (counts.field? key).bind Json.nat?
    let usage : Usage :=
      ⟨count "prompt_tokens", count "completion_tokens", count "total_tokens"⟩
    if usage.isEmpty then none else some usage

/-- A run has failed. -/
structure RunError where
  message : String
  kind : Option String
  deriving DecidableEq, Repr

namespace RunError

def text (e : RunError) : String :=
  match e.kind with
  | some kind => kind ++ ": " ++ e.message
  | none => e.message

/-- What stands after the last double colon of a text, of which `current` is read since the last
one. -/
def lastPart (current : List Char) : List Char → List Char
  | ':' :: ':' :: rest => lastPart [] rest
  | c :: rest => lastPart (c :: current) rest
  | [] => current.reverse

/-- The name of a type without its path and its arguments. -/
def shortTypeName (path : String) : String :=
  String.ofList (lastPart [] (path.toList.takeWhile (· != '<')))

/-- An error of a named type. -/
def ofTyped (path message : String) : RunError := ⟨message, some (shortTypeName path)⟩

end RunError

/-- What a host program tells about a run. -/
inductive Notice where
  | started (start : RunStart)
  | ended (run : RunId) (output : RunOutput)
  | failed (run : RunId) (error : RunError)

/-- The run that a notice is about. -/
def Notice.run : Notice → RunId
  | .started start => start.run
  | .ended run _ => run
  | .failed run _ => run

end StoryTrace
