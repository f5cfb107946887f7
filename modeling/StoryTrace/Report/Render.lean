import StoryTrace.Json.Printer
import StoryTrace.Report.Advice
import StoryTrace.Report.Arcs
import StoryTrace.Report.Markdown
import StoryTrace.Report.Outline
import StoryTrace.Report.Timeline
import StoryTrace.Store.Replay
import StoryTrace.Store.View

/-!
# Rendering logs

A log is replayed into a store, whose traces are rendered one by one. Trees and JSON show every
trace; the other formats show the stories among them.
-/

namespace StoryTrace

inductive RenderFormat where
  | tree
  | timeline
  | markdown
  | arcs
  | suggestions
  | json
  deriving DecidableEq, Repr

namespace RenderFormat

def names : List (String × RenderFormat) :=
  [("tree", .tree), ("timeline", .timeline), ("markdown", .markdown), ("arcs", .arcs),
    ("suggestions", .suggestions), ("json", .json)]

def ofText? (s : String) : Option RenderFormat := names.lookup s

end RenderFormat

/-- Why a log cannot be rendered. -/
inductive RenderError where
  | noTraces
  | noStories
  deriving DecidableEq, Repr

def RenderError.message : RenderError → String
  | .noTraces => "No traces found"
  | .noStories => "No narrative traces found"

namespace Report

/-- The heading of a trace and the outlines of its spans. -/
def treeSection (s : Store) (t : Trace) : String :=
  let heading := t.name ++ " [" ++ t.id ++ "]"
  let tree := Outline.renderForest (s.forest t.id)
  if tree = "" then heading else heading ++ "\n" ++ tree

/-- A trace with its nested spans. -/
def traceJson (s : Store) (t : Trace) : Json :=
  .object [("spans", .array (SpanForest.toJson (s.forest t.id))), ("trace", t.toJson)]

def suggestionSection (c : CompletedStory) : String :=
  Text.joinLines (("💡 Suggestions: " ++ c.storyId) :: c.storyMetrics.suggestions.map ("  " ++ ·))

/-- The section of a story in one of the formats that show stories. -/
def storySection (format : RenderFormat) (c : CompletedStory) : String :=
  match format with
  | .timeline => timeline c
  | .markdown => markdown c
  | .arcs => arcGraph c
  | _ => suggestionSection c

/-- The stories that traces tell. A trace without story spans tells none. -/
def stories (s : Store) (traces : List Trace) : List CompletedStory :=
  (traces.map fun t => CompletedStory.ofRecords t (s.spansOf t.id)).filter (!·.spans.isEmpty)

def joinSections (sections : List String) : String := String.intercalate "\n\n" sections

/-- The text of the given traces of a store. -/
def renderTraces (s : Store) (format : RenderFormat) (traces : List Trace) :
    Except RenderError String :=
  if traces.isEmpty then .error .noTraces
  else
    match format with
    | .json => .ok (Json.array (traces.map (traceJson s))).canonical.pretty
    | .tree => .ok (joinSections (traces.map (treeSection s)))
    | _ =>
      match stories s traces with
      | [] => .error .noStories
      | told => .ok (joinSections (told.map (storySection format)))

/-- Whether a trace is wanted: every one is, unless one is named. -/
def wanted (traceId : Option String) (t : Trace) : Bool :=
  match traceId with
  | some id => t.id == id
  | none => true

/-- The text of a log. Missing times are filled with the given reading of the clock. -/
def render (now : Instant) (events : List Event) (format : RenderFormat) (traceId : Option String) :
    Except RenderError String :=
  let store := Store.replay now events
  renderTraces store format (store.traces.filter (wanted traceId))

end Report

end StoryTrace
