import StoryTrace.Decimal.Fixed
import StoryTrace.Json.Number
import StoryTrace.Story.Completed
import StoryTrace.Text.Blank

/-!
# Story displays

A completed story at a glance: every created beat with what became of it, then what belongs to no
beat, then the metrics.
-/

namespace StoryTrace.Report

/-- A number with two decimal places. -/
def score (x : Float) : String := Decimal.fixed 2 x

/-- Milliseconds without decimal places. -/
def millis (x : Float) : String := Decimal.fixed 0 x ++ "ms"

/-- Spans by the beats that they are about, and those that belong to no beat. -/
structure BeatGroups where
  beats : List (String × List StorySpan)
  others : List StorySpan

namespace BeatGroups

/-- The groups with a span at the end of that of its beat, or in a new one if there is none yet. -/
def join (id : String) (s : StorySpan) : List (String × List StorySpan) →
    List (String × List StorySpan)
  | [] => [(id, [s])]
  | (other, group) :: rest =>
    if other = id then (other, group ++ [s]) :: rest else (other, group) :: join id s rest

def add (g : BeatGroups) (s : StorySpan) : BeatGroups :=
  match s.beatId with
  | some id => { g with beats := join id s g.beats }
  | none => { g with others := g.others ++ [s] }

/-- The groups that spans fall into, one after the other. -/
def ofSpans (spans : List StorySpan) : BeatGroups := spans.foldl add ⟨[], []⟩

end BeatGroups

/-- The text of a string, a number or a truth value. -/
def scalar? : Json → Option String
  | .string s => some s
  | .number n => some n.text
  | .bool b => some (if b then "true" else "false")
  | _ => none

def spanLine (s : StorySpan) : String := "│  ├─ " ++ s.kind.displayName

def entryLine (key value : String) : String := "│  │  └─ " ++ key ++ ": " ++ value

/-- The lines of a span below its beat. -/
def beatSpanLines (s : StorySpan) : List String :=
  spanLine s :: s.output.filterMap fun e => (scalar? e.2).map (entryLine e.1)

def beatHeading (id : String) (creation : StorySpan) : String :=
  "├─ 📝 Beat: " ++ id ++ " (" ++ creation.emotionalTone.getD "neutral" ++ ")"

/-- The lines of a beat with its spans, of which there are none unless the beat was created. -/
def beatLines (id : String) (group : List StorySpan) : List String :=
  match group.find? (·.kind == .beatCreated) with
  | none => []
  | some creation =>
    beatHeading id creation :: (group.filter (·.id != creation.id)).flatMap beatSpanLines

/-- The line of a span that belongs to no beat. -/
def otherLine (s : StorySpan) : String :=
  "├─ " ++ s.kind.displayName ++
    match s.leadUniverse with
    | some lead => " (lead: " ++ lead ++ ")"
    | none => ""

def otherLines : List StorySpan → List String
  | [] => []
  | others => "│" :: others.map otherLine

def metricLines (m : StoryMetrics) : List String :=
  ["│",
    "└─ 📊 Final Metrics",
    "   ├─ coherence: " ++ score m.coherence,
    "   ├─ emotional_arc: " ++ score m.emotionalArc,
    "   ├─ theme_clarity: " ++ score m.themeClarity,
    "   ├─ beats_generated: " ++ toString m.beats,
    "   └─ overall_quality: " ++ score m.quality]

def headingLines (c : CompletedStory) : List String :=
  [rootName c.storyId,
    "   Session: " ++ c.sessionId,
    "   Duration: " ++ millis c.durationMs,
    ""]

def displayLines (c : CompletedStory) : List String :=
  let groups := BeatGroups.ofSpans c.spans
  headingLines c ++ groups.beats.flatMap (fun g => beatLines g.1 g.2) ++ otherLines groups.others ++
    (c.metrics.map metricLines).getD []

def display (c : CompletedStory) : String := Text.joinLines (displayLines c)

end StoryTrace.Report
