import StoryTrace.Json.Layout
import StoryTrace.Record.Codec

/-!
# Correlations

A correlation links the trace of a story with the traces that other systems record for it. Every
trace is listed, and every system once, in the order in which the story first came to it.
-/

namespace StoryTrace

structure Correlation where
  rootTraceId : String
  childTraceIds : List String
  storyId : String
  sessionId : String
  path : List String
  createdAt : Instant
  deriving DecidableEq, Repr

namespace Correlation

/-- The correlation of a story that has only come to one system. -/
def start (rootTraceId storyId sessionId system : String) (now : Instant) : Correlation :=
  ⟨rootTraceId, [], storyId, sessionId, [system], now⟩

/-- Adds a system to the path, unless it is there already. -/
def visit (c : Correlation) (system : String) : Correlation :=
  if c.path.contains system then c else { c with path := c.path ++ [system] }

/-- Adds a trace that a system has recorded. -/
def addChild (c : Correlation) (traceId system : String) : Correlation :=
  { c with childTraceIds := c.childTraceIds ++ [traceId] }.visit system

def toJson (c : Correlation) : Json :=
  .object [("root_trace_id", .string c.rootTraceId),
    ("child_trace_ids", .ofStrings c.childTraceIds), ("story_id", .string c.storyId),
    ("session_id", .string c.sessionId), ("correlation_path", .ofStrings c.path),
    ("created_at", c.createdAt.toJson)]

def ofJson? (v : Json) : Option Correlation := do
  let l ← Json.Layout.of? 6 6 v
  let rootTraceId ← l.required 0 "root_trace_id" Json.string?
  let childTraceIds ← l.withDefault 1 "child_trace_ids" [] Json.strings?
  let storyId ← l.withDefault 2 "story_id" "" Json.string?
  let sessionId ← l.withDefault 3 "session_id" "" Json.string?
  let path ← l.withDefault 4 "correlation_path" [] Json.strings?
  let createdAt ← l.required 5 "created_at" Instant.ofJson?
  return { rootTraceId, childTraceIds, storyId, sessionId, path, createdAt }

theorem path_visit (c : Correlation) (system : String) :
    (c.visit system).path = if system ∈ c.path then c.path else c.path ++ [system] := by
  unfold visit
  by_cases h : system ∈ c.path <;> simp [h]

@[simp] theorem childTraceIds_visit (c : Correlation) (system : String) :
    (c.visit system).childTraceIds = c.childTraceIds := by
  unfold visit; split <;> rfl

@[simp] theorem childTraceIds_addChild (c : Correlation) (traceId system : String) :
    (c.addChild traceId system).childTraceIds = c.childTraceIds ++ [traceId] := by
  simp [addChild]

end Correlation

end StoryTrace
