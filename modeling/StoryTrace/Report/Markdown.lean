import StoryTrace.Report.Display
import StoryTrace.Text.Preview

/-!
# Markdown reports

A completed story as a document with sections. A section that has nothing to tell is left out.
-/

namespace StoryTrace.Report

/-- The number of characters of the story that a document shows. -/
def markdownPreviewLength : Nat := 1000

def metricRow (name : String) (x : Float) : String := "| " ++ name ++ " | " ++ score x ++ " |"

def metricsSection (m : StoryMetrics) : List String :=
  ["## Quality Metrics",
    "",
    "| Metric | Value |",
    "|--------|-------|",
    metricRow "Coherence" m.coherence,
    metricRow "Emotional Arc" m.emotionalArc,
    metricRow "Theme Clarity" m.themeClarity,
    metricRow "Cross-Universe Coherence" m.crossUniverse,
    metricRow "Overall Quality" m.quality,
    ""]

def beatItem (what : String) (value : String) : String := "- **" ++ what ++ "**: " ++ value

def beatSection (s : StorySpan) : List String :=
  ["### Beat: " ++ s.beatId.getD "?", ""] ++
    (s.emotionalTone.map (beatItem "Emotional Tone")).toList ++
    (if s.characterIds.isEmpty then []
      else [beatItem "Characters" (String.intercalate ", " s.characterIds)]) ++
    (s.leadUniverse.map (beatItem "Lead Universe")).toList ++ [""]

def correlationSection (c : Correlation) : List String :=
  if c.path.isEmpty then []
  else ["## System Correlation", "", "Path: " ++ String.intercalate " → " c.path, ""]

/-- The line around a block of verbatim text. -/
def fence : String := "\x60\x60\x60"

def previewSection (content : String) : List String :=
  ["## Story Preview", "", fence, Text.preview content markdownPreviewLength, fence]

def markdownLines (c : CompletedStory) : List String :=
  ["# Story Generation Trace: " ++ c.storyId,
    "",
    "## Metadata",
    "",
    beatItem "Story ID" c.storyId,
    beatItem "Session ID" c.sessionId,
    beatItem "Duration" (millis c.durationMs),
    beatItem "Beats Generated" (toString c.beatCount),
    ""] ++
    (c.metrics.map metricsSection).getD [] ++
    ["## Beat Breakdown", ""] ++
    (c.spans.filter (·.kind == .beatCreated)).flatMap beatSection ++
    (c.correlation.map correlationSection).getD [] ++
    (c.content.map previewSection).getD []

/-- The document, with a newline at its end. -/
def markdown (c : CompletedStory) : String := Text.joinLines (markdownLines c) ++ "\n"

end StoryTrace.Report
