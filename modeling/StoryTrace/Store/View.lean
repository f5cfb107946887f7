import StoryTrace.Forest
import StoryTrace.Record.Codec

/-!
# Views of a store

All that a store holds, as JSON: its records, the shapes of its forests, and its counts.
-/

namespace StoryTrace

mutual

/-- A tree with its ids and counts only. -/
def SpanTree.shape : SpanTree → Json
  | .node s children =>
    .object [("children", .array (SpanForest.shapes children)),
      ("count", .ofNat (SpanTree.node s children).count), ("id", .string s.id)]

def SpanForest.shapes : List SpanTree → List Json
  | [] => []
  | t :: rest => t.shape :: SpanForest.shapes rest

end

mutual

/-- A tree as its span with the trees below it, if there are any. -/
def SpanTree.toJson : SpanTree → Json
  | .node s [] => s.toJson
  | .node s (t :: rest) =>
    .object (s.members ++ [("children", .array (t.toJson :: SpanForest.toJson rest))])

def SpanForest.toJson : List SpanTree → List Json
  | [] => []
  | t :: rest => t.toJson :: SpanForest.toJson rest

end

/-- The shape of the forest of a trace. -/
def Store.forestShape (s : Store) (t : Trace) : Json :=
  .object [("roots", .array (SpanForest.shapes (s.forest t.id))), ("trace", .string t.id)]

def Store.toJson (s : Store) : Json :=
  .object [("closures", .ofNat s.closures), ("flushes", .ofNat s.flushes),
    ("orphans", .ofNat s.orphans), ("spans", .array (s.spans.map Span.toJson)),
    ("trace_creates", .ofNat s.creations), ("traces", .array (s.traces.map Trace.toJson)),
    ("trees", .array (s.traces.map s.forestShape))]

end StoryTrace
