import StoryTrace.Event.Basic
import StoryTrace.Json.Printer
import StoryTrace.Json.Skip
import StoryTrace.Record.Codec

/-!
# Events as JSON

The body of an event is not marked. It is read as the body of a span if it can be, which needs a
trace id, and otherwise as the body of a trace; the kind of the event has no say in it.
-/

namespace StoryTrace

namespace EventKind

def names : List (String × EventKind) :=
  [("trace-create", .traceCreate), ("span-create", .spanCreate), ("span-update", .spanUpdate),
    ("generation-create", .generationCreate), ("generation-update", .generationUpdate)]

def text : EventKind → String
  | .traceCreate => "trace-create"
  | .spanCreate => "span-create"
  | .spanUpdate => "span-update"
  | .generationCreate => "generation-create"
  | .generationUpdate => "generation-update"

def toJson (k : EventKind) : Json := .string k.text

def ofJson? : Json → Option EventKind := Json.choice? names

@[simp] theorem ofJson?_toJson (k : EventKind) : ofJson? k.toJson = some k := by cases k <;> rfl

end EventKind

namespace TraceBody

def toJson (b : TraceBody) : Json :=
  .object ([("id", .string b.id)] ++ Json.given "name" (b.name.map .string) ++
    Json.given "sessionId" (b.sessionId.map .string) ++
    Json.given "metadata" (b.metadata.map .object) ++ Json.given "output" b.output ++
    Json.given "timestamp" (b.timestamp.map (·.toJson)))

def ofJson? (v : Json) : Option TraceBody := do
  let l ← Json.Layout.of? 1 6 v
  let id ← l.required 0 "id" Json.string?
  let name ← l.optional 1 "name" Json.string?
  let sessionId ← l.optional 2 "sessionId" Json.string?
  let metadata ← l.optional 3 "metadata" Json.metadata?
  let output ← l.optionalValue 4 "output"
  let timestamp ← l.optional 5 "timestamp" Instant.ofJson?
  return { id, name, sessionId, metadata, output, timestamp }

end TraceBody

namespace SpanBody

def toJson (b : SpanBody) : Json :=
  .object ([("id", .string b.id), ("traceId", .string b.traceId)] ++
    Json.given "parentObservationId" (b.parentId.map .string) ++
    Json.given "name" (b.name.map .string) ++
    Json.given "startTime" (b.startTime.map (·.toJson)) ++
    Json.given "endTime" (b.endTime.map (·.toJson)) ++
    Json.given "input" b.input ++ Json.given "output" b.output ++
    Json.given "metadata" (b.metadata.map .object) ++
    Json.given "level" (b.level.map (·.toJson)) ++
    Json.given "statusMessage" (b.statusMessage.map .string) ++
    Json.given "usage" (b.usage.map (·.toJson)))

def ofJson? (v : Json) : Option SpanBody := do
  let l ← Json.Layout.of? 2 12 v
  let id ← l.required 0 "id" Json.string?
  let traceId ← l.required 1 "traceId" Json.string?
  let parentId ← l.optional 2 "parentObservationId" Json.string?
  let name ← l.optional 3 "name" Json.string?
  let startTime ← l.optional 4 "startTime" Instant.ofJson?
  let endTime ← l.optional 5 "endTime" Instant.ofJson?
  let input ← l.optionalValue 6 "input"
  let output ← l.optionalValue 7 "output"
  let metadata ← l.optional 8 "metadata" Json.metadata?
  let level ← l.optional 9 "level" Level.ofJson?
  let statusMessage ← l.optional 10 "statusMessage" Json.string?
  let usage ← l.optional 11 "usage" Usage.ofJson?
  return { id, traceId, parentId, name, startTime, endTime, input, output, metadata, level,
           statusMessage, usage }

end SpanBody

namespace EventBody

def toJson : EventBody → Json
  | .span b => b.toJson
  | .trace b => b.toJson

def ofJson? (v : Json) : Option EventBody :=
  match SpanBody.ofJson? v with
  | some b => some (.span b)
  | none => (TraceBody.ofJson? v).map .trace

end EventBody

namespace Event

def toJson (e : Event) : Json :=
  .object [("id", .string e.id), ("timestamp", e.timestamp.toJson), ("type", e.kind.toJson),
    ("body", e.body.toJson)]

def ofJson? (v : Json) : Option Event := do
  let l ← Json.Layout.of? 4 4 v
  let id ← l.required 0 "id" Json.string?
  let timestamp ← l.required 1 "timestamp" Instant.ofJson?
  let kind ← l.required 2 "type" EventKind.ofJson?
  let body ← l.required 3 "body" EventBody.ofJson?
  return { id, timestamp, kind, body }

/-- The event as one line of a log, without the newline. -/
def line (e : Event) : String := e.toJson.compress

/-- The members of an event. -/
def memberNames : List String := ["id", "timestamp", "type", "body"]

/-- The event that one line of a log writes. Other members are skipped unread. -/
def ofLine? (s : String) : Option Event := (Json.parseNamed? memberNames s).bind ofJson?

end Event

end StoryTrace
