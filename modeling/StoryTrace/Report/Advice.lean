import StoryTrace.Story.Completed

/-!
# Advice

The metrics of a completed story, which are counted from its spans if the story brings none, and
what they suggest to improve.
-/

namespace StoryTrace

namespace CompletedStory

def count (c : CompletedStory) (kind : StoryKind) : Nat := c.spans.countP (·.kind == kind)

/-- The coherence that each universe analysis with an output found. -/
def coherences (c : CompletedStory) : List Float :=
  (c.spans.filter fun s => s.kind == .universeAnalysis && !s.output.isEmpty).map fun s =>
    ((s.output.get? "coherence_score").bind Json.float?).getD 0.5

def mean (xs : List Float) : Float := xs.foldl (· + ·) (-0.0) / Float.ofNat xs.length

/-- The metrics as far as the spans tell. -/
def derivedMetrics (c : CompletedStory) : StoryMetrics :=
  { StoryMetrics.default with
    beats := c.count .beatCreated
    enrichments := c.count .beatEnriched
    remediations := c.count .gapRemediated
    decisions := c.count .routingDecision
    crossUniverse :=
      if c.coherences.isEmpty then StoryMetrics.default.crossUniverse
      else mean c.coherences }.withTotal c.durationMs

/-- The metrics that the story brings, or else those that its spans tell. -/
def storyMetrics (c : CompletedStory) : StoryMetrics := c.metrics.getD c.derivedMetrics

end CompletedStory

namespace StoryMetrics

/-- The characters whose arcs are far from complete. -/
def unfinishedArcs (m : StoryMetrics) : List String :=
  (m.arcs.filter fun e => e.2 < 0.6).map (·.1)

/-- A suggestion for every weak spot. -/
def weakSpots (m : StoryMetrics) : List String :=
  (if m.coherence < 0.6 then
    ["🔍 Low coherence detected. Consider adding transition beats to improve flow between scenes."]
  else []) ++
  (if m.emotionalArc < 0.5 then
    ["💓 Emotional arc is weak. Try adding beats with stronger emotional contrast or character " ++
      "reactions."]
  else []) ++
  (if m.themeClarity < 0.6 then
    ["🎨 Themes are unclear. Consider reinforcing thematic elements through dialogue or symbolic " ++
      "actions."]
  else []) ++
  (if m.crossUniverse < 0.5 then
    ["🌌 Three-universe alignment is low. Review if Engineer, Ceremony, and Story Engine " ++
      "perspectives are all represented."]
  else []) ++
  (if Float.ofNat m.enrichments < Float.ofNat m.beats * 0.3 then
    ["✨ Few beats were enriched. Consider running more beats through specialized flows for " ++
      "quality improvement."]
  else []) ++
  (match m.unfinishedArcs with
  | [] => []
  | characters =>
    ["🎭 Characters with incomplete arcs: " ++ String.intercalate ", " characters ++
      ". Add beats that advance their personal journeys."]) ++
  (if m.averageBeatMs > 5000.0 then
    ["⚡ Beat generation is slow. Consider optimizing prompts or using faster model variants for " ++
      "initial drafts."]
  else [])

/-- What is said of metrics without a weak spot. -/
def allClear : String :=
  "✅ Narrative metrics look healthy! The story maintains good coherence, emotional arc, and " ++
    "thematic clarity."

/-- What to improve, or that there is nothing to improve. -/
def suggestions (m : StoryMetrics) : List String :=
  match m.weakSpots with
  | [] => [allClear]
  | spots => spots

end StoryMetrics

end StoryTrace
