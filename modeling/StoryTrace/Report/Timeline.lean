import StoryTrace.Story.Completed
import StoryTrace.Text.Blank

/-!
# Timelines

The spans of a completed story in the order of their starts.
-/

namespace StoryTrace.Report

/-- A line about the span above it, if there is something to tell. -/
def timelineNote (what : String) (value : Option String) : List String :=
  (value.map fun v => "          │   " ++ what ++ ": " ++ v).toList

def timelineSpan (connector : String) (s : StorySpan) : List String :=
  (Rfc3339.timeOfDayText s.startTime ++ " " ++ connector ++ " " ++ s.kind.displayName) ::
    (timelineNote "beat" s.beatId ++ timelineNote "emotion" s.emotionalTone ++
      timelineNote "universe" s.leadUniverse)

/-- The lines of spans, of which the last one has the closing connector. -/
def timelineSpans : List StorySpan → List String
  | [] => []
  | [s] => timelineSpan "└─" s
  | s :: next :: rest => timelineSpan "├─" s ++ timelineSpans (next :: rest)

def timelineLines (c : CompletedStory) : List String :=
  ["📅 Timeline: " ++ c.storyId,
    "   " ++ Rfc3339.offsetText c.startTime ++ " → " ++ Rfc3339.offsetText c.endTime,
    ""] ++ timelineSpans (CompletedStory.sortSpans c.spans)

def timeline (c : CompletedStory) : String := Text.joinLines (timelineLines c)

end StoryTrace.Report
