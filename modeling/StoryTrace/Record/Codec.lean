import StoryTrace.Json.Layout
import StoryTrace.Record.Basic
import StoryTrace.Time.Rfc3339

/-!
# Records as JSON

Each record has one written form. Absent values and empty metadata are left out, and the status of
a span is written among its fields. The readers accept members in any order and ignore unknown
ones.
-/

namespace StoryTrace

def Instant.toJson (t : Instant) : Json := .string (Rfc3339.text t)

def Instant.ofJson? (v : Json) : Option Instant := v.string?.bind Rfc3339.read?

namespace SpanType

def names : List (String × SpanType) := [("span", .span), ("generation", .generation)]

def text : SpanType → String
  | .span => "span"
  | .generation => "generation"

def toJson (t : SpanType) : Json := .string t.text

def ofJson? : Json → Option SpanType := Json.choice? names

@[simp] theorem ofJson?_toJson (t : SpanType) : ofJson? t.toJson = some t := by cases t <;> rfl

end SpanType

namespace Level

def names : List (String × Level) :=
  [("DEBUG", .debug), ("DEFAULT", .standard), ("WARNING", .warning), ("ERROR", .error)]

def text : Level → String
  | .debug => "DEBUG"
  | .standard => "DEFAULT"
  | .warning => "WARNING"
  | .error => "ERROR"

def toJson (l : Level) : Json := .string l.text

def ofJson? : Json → Option Level := Json.choice? names

@[simp] theorem ofJson?_toJson (l : Level) : ofJson? l.toJson = some l := by cases l <;> rfl

end Level

namespace Status

/-- The members that say the status: a tag, and for a failure its message and kind. -/
def members : Status → List (String × Json)
  | .running => [("status", .string "open")]
  | .succeeded => [("status", .string "ok")]
  | .failed message kind =>
    [("status", .string "error"), ("message", .string message)] ++
      Json.given "kind" (kind.map .string)

/-- The tags of the three states. -/
inductive Tag where
  | running
  | succeeded
  | failed

def Tag.names : List (String × Tag) := [("open", .running), ("ok", .succeeded), ("error", .failed)]

/-- A tag is given by its name or by its number. -/
def Tag.ofJson? : Json → Option Tag
  | .string s => names.lookup s
  | .number (.int n) => if 0 ≤ n then (names[n.toNat]?).map (·.2) else none
  | _ => none

/-- The status told by the members of a record. -/
def ofMembers? (l : Json.Layout) : Option Status := do
  match ← l.required 0 "status" Tag.ofJson? with
  | .running => return .running
  | .succeeded => return .succeeded
  | .failed =>
    let message ← l.required 0 "message" Json.string?
    let kind ← l.optional 0 "kind" Json.string?
    return .failed message kind

end Status

namespace Usage

def toJson (u : Usage) : Json :=
  .object (Json.given "promptTokens" (u.prompt.map .ofNat) ++
    Json.given "completionTokens" (u.completion.map .ofNat) ++
    Json.given "totalTokens" (u.total.map .ofNat))

def ofJson? (v : Json) : Option Usage := do
  let l ← Json.Layout.of? 0 3 v
  let prompt ← l.optional 0 "promptTokens" Json.nat?
  let completion ← l.optional 1 "completionTokens" Json.nat?
  let total ← l.optional 2 "totalTokens" Json.nat?
  return ⟨prompt, completion, total⟩

end Usage

namespace Trace

def toJson (t : Trace) : Json :=
  .object ([("id", .string t.id)] ++ Json.given "session_id" (t.sessionId.map .string) ++
    [("name", .string t.name)] ++ Json.filled "metadata" t.metadata ++
    [("created_at", t.createdAt.toJson)] ++ Json.given "output" t.output)

def ofJson? (v : Json) : Option Trace := do
  let l ← Json.Layout.of? 5 6 v
  let id ← l.required 0 "id" Json.string?
  let sessionId ← l.optional 1 "session_id" Json.string?
  let name ← l.required 2 "name" Json.string?
  let metadata ← l.metadata 3 "metadata"
  let createdAt ← l.required 4 "created_at" Instant.ofJson?
  let output ← l.optionalValue 5 "output"
  return { id, sessionId, name, metadata, createdAt, output }

end Trace

namespace Span

def members (s : Span) : List (String × Json) :=
  [("id", .string s.id), ("trace_id", .string s.traceId)] ++
    Json.given "parent_id" (s.parentId.map .string) ++
    [("observation_type", s.type.toJson), ("name", .string s.name), ("input", s.input)] ++
    Json.given "output" s.output ++ Json.filled "metadata" s.metadata ++
    [("started_at", s.startedAt.toJson)] ++ Json.given "ended_at" (s.endedAt.map (·.toJson)) ++
    s.status.members ++ [("level", s.level.toJson)] ++ Json.given "usage" (s.usage.map (·.toJson))

def toJson (s : Span) : Json := .object s.members

def ofJson? (v : Json) : Option Span := do
  let l ← Json.Layout.ofObject? v
  let id ← l.required 0 "id" Json.string?
  let traceId ← l.required 0 "trace_id" Json.string?
  let parentId ← l.optional 0 "parent_id" Json.string?
  let type ← l.withDefault 0 "observation_type" .span SpanType.ofJson?
  let name ← l.required 0 "name" Json.string?
  let input ← l.withDefault 0 "input" .null fun v => some v.canonical
  let output ← l.optionalValue 0 "output"
  let metadata ← l.metadata 0 "metadata"
  let startedAt ← l.required 0 "started_at" Instant.ofJson?
  let endedAt ← l.optional 0 "ended_at" Instant.ofJson?
  let status ← Status.ofMembers? l
  let level ← l.withDefault 0 "level" .standard Level.ofJson?
  let usage ← l.optional 0 "usage" Usage.ofJson?
  return { id, traceId, parentId, type, name, input, output, metadata, startedAt, endedAt, status,
           level, usage }

end Span

namespace Closure

def toJson (c : Closure) : Json :=
  .object ([("span_id", .string c.spanId), ("trace_id", .string c.traceId),
    ("observation_type", c.type.toJson)] ++ Json.given "output" c.output ++ c.status.members ++
    [("level", c.level.toJson)] ++ Json.given "usage" (c.usage.map (·.toJson)) ++
    [("ended_at", c.endedAt.toJson)])

def ofJson? (v : Json) : Option Closure := do
  let l ← Json.Layout.ofObject? v
  let spanId ← l.required 0 "span_id" Json.string?
  let traceId ← l.required 0 "trace_id" Json.string?
  let type ← l.withDefault 0 "observation_type" .span SpanType.ofJson?
  let output ← l.optionalValue 0 "output"
  let status ← Status.ofMembers? l
  let level ← l.withDefault 0 "level" .standard Level.ofJson?
  let usage ← l.optional 0 "usage" Usage.ofJson?
  let endedAt ← l.required 0 "ended_at" Instant.ofJson?
  return { spanId, traceId, type, output, status, level, usage, endedAt }

end Closure

namespace TraceUpdate

def toJson (u : TraceUpdate) : Json :=
  .object ([("trace_id", .string u.traceId)] ++ Json.given "output" u.output ++
    Json.filled "metadata" u.metadata)

def ofJson? (v : Json) : Option TraceUpdate := do
  let l ← Json.Layout.of? 1 3 v
  let traceId ← l.required 0 "trace_id" Json.string?
  let output ← l.optionalValue 1 "output"
  let metadata ← l.metadata 2 "metadata"
  return { traceId, output, metadata }

end TraceUpdate

end StoryTrace
