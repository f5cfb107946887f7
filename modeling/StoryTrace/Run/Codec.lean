import StoryTrace.Record.Codec
import StoryTrace.Run.Recorder

/-!
# Notices as JSON

What a host program sends about its runs, and what it is answered. The key under which an input or
output stands tells its form.
-/

namespace StoryTrace

/-- Runs are named by numbers or by texts. -/
def RunId.ofJson? : Json → Option RunId
  | .string s => some s
  | v => v.nat?.map fun n => toString n

def ChatMessage.ofJson? (v : Json) : Option ChatMessage := do
  let l ← Json.Layout.of? 2 2 v
  let role ← l.required 0 "role" Json.string?
  let content ← l.required 1 "content" fun v => some v.canonical
  return { role, content }

def Document.ofJson? (v : Json) : Option Document := do
  let l ← Json.Layout.of? 1 2 v
  let content ← l.required 0 "page_content" Json.string?
  let metadata ← l.metadata 1 "metadata"
  return { content, metadata }

/-- Reads every item of a list. -/
def Json.listOf? {α : Type} (read : Json → Option α) (v : Json) : Option (List α) :=
  v.array?.bind (·.mapM read)

/-- The input under the first of its possible keys. -/
def RunInput.ofJson? (v : Json) : Option RunInput :=
  match v.field? "prompts", v.field? "messages", v.field? "inputs", v.field? "text" with
  | some p, _, _, _ => p.strings?.map .prompts
  | none, some m, _, _ => (m.listOf? (Json.listOf? ChatMessage.ofJson?)).map .messages
  | none, none, some i, _ => some (.inputs i)
  | none, none, none, some t => t.string?.map .text
  | none, none, none, none => ((v.field? "query").bind Json.string?).map .query

def RunStart.ofJson? (v : Json) : Option RunStart := do
  let l ← Json.Layout.ofObject? v
  let run ← l.optional 0 "run" RunId.ofJson?
  let parent ← l.optional 0 "parent" RunId.ofJson?
  let kind ← l.required 0 "kind" OperationKind.ofJson?
  let descriptor ← l.withDefault 0 "serialized" (.object []) some
  let input ← l.required 0 "input" RunInput.ofJson?
  let tags ← l.withDefault 0 "tags" [] Json.strings?
  let metadata ← l.metadata 0 "metadata"
  let name ← l.optional 0 "name" Json.string?
  return { run := run.getD "", parent, kind, descriptor, input, tags, metadata, name }

def RunOutput.ofJson? (v : Json) : Option RunOutput :=
  match v.field? "generations", v.field? "documents" with
  | some g, _ => do
    let texts ← g.listOf? Json.strings?
    let usage ← (Json.Layout.named v.membersOf).optional 0 "usage" Usage.ofJson?
    return .generations texts usage
  | none, some d => (d.listOf? Document.ofJson?).map .documents
  | none, none => some (.value ((v.field? "value").getD .null))

def TracePolicy.toJson : TracePolicy → Json
  | .perRun => .string "per_run"
  | .fixed id => .object [("fixed", .string id)]

def Resolution.toJson (r : Resolution) : Json :=
  .object [("created", .bool r.created), ("trace_id", .string r.traceId)]

def ClosedRun.toJson (c : ClosedRun) : Json :=
  .object [("observation_id", .string c.spanId), ("trace_id", .string c.traceId),
    ("type", c.type.toJson)]

def StartedRun.toJson (s : StartedRun) : Json :=
  .object [("new_trace", .bool s.newTrace), ("observation_id", .string s.spanId),
    ("repeated", .bool s.repeated), ("trace_id", .string s.traceId)]

end StoryTrace
