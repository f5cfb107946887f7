import StoryTrace.Decimal.Fixed
import StoryTrace.Story.Completed
import StoryTrace.Text.Blank

/-!
# Character arcs

Where each character stood after every step of its arc, drawn as a chart, with the tones of the
beats and the themes that came up.
-/

namespace StoryTrace

structure StoryArcs where
  /-- The positions of each character, in the order of the updates. -/
  positions : Table (List Float)
  /-- The tones of the created beats. -/
  emotions : List String
  /-- How often each theme came up. -/
  themes : Table Nat

namespace StoryArcs

def empty : StoryArcs := ⟨[], [], []⟩

/-- The position that an update has brought its character to. -/
def position? (s : StorySpan) : Option Float :=
  (s.output.get? "arc_position_after").bind Json.float?

/-- Adds what a span tells. An update counts for the first of its characters. -/
def add (a : StoryArcs) (s : StorySpan) : StoryArcs :=
  match s.kind with
  | .characterArcUpdated =>
    match s.characterIds with
    | [] => a
    | character :: _ =>
      let before := (a.positions.get? character).getD []
      { a with positions := a.positions.put character (before ++ (position? s).toList) }
  | .beatCreated => { a with emotions := a.emotions ++ s.emotionalTone.toList }
  | .themeDetected =>
    { a with
      themes := s.themeKeywords.foldl (fun t keyword => t.put keyword ((t.get? keyword).getD 0 + 1))
        a.themes }
  | _ => a

def ofSpans (spans : List StorySpan) : StoryArcs := spans.foldl add empty

/-- The rows of a chart above its lowest one. -/
def chartHeight : Nat := 10

/-- The position that a bar has to reach for a row. -/
def threshold (row : Nat) : Float := Float.ofNat row / Float.ofNat chartHeight

def chartRow (positions : List Float) (row : Nat) : String :=
  Decimal.fixed 1 (threshold row) ++ " │" ++
    String.ofList (positions.map fun p => if p ≥ threshold row then '█' else '·')

/-- The last digits of the numbers of the columns. -/
def ticks (columns : Nat) : String :=
  String.ofList ((List.range columns).map fun i => Char.ofNat ('0'.toNat + i % 10))

/-- The chart of positions, with a column for each. -/
def chartLines (positions : List Float) : List String :=
  (List.range (chartHeight + 1)).reverse.map (chartRow positions) ++
    ["    └" ++ String.ofList (List.replicate positions.length '─'),
      "      " ++ ticks positions.length]

/-- The chart of the last positions of a character, as many as the width. -/
def chart (a : StoryArcs) (character : String) (width : Nat) : String :=
  match a.positions.get? character with
  | none => "No arc data for " ++ character
  | some [] => "Empty arc"
  | some positions => Text.joinLines (chartLines (positions.drop (positions.length - width)))

end StoryArcs

namespace Report

/-- The width of the charts in a report. -/
def chartWidth : Nat := 40

def journeyLines (emotions : List String) : List String :=
  match emotions with
  | [] => []
  | _ =>
    "Emotional Journey:" ::
      emotions.zipIdx.map fun (emotion, i) => "  " ++ toString (i + 1) ++ ". " ++ emotion

def arcLines (c : CompletedStory) : List String :=
  let arcs := StoryArcs.ofSpans c.spans
  let charts := arcs.positions.keys.flatMap fun character =>
    ["Character: " ++ character, arcs.chart character chartWidth, ""]
  ["🎭 Character Arcs: " ++ c.storyId, ""] ++
    if arcs.positions.isEmpty then ["No character arc data found"]
    else charts ++ journeyLines arcs.emotions

def arcGraph (c : CompletedStory) : String := Text.joinLines (arcLines c)

end Report

end StoryTrace
