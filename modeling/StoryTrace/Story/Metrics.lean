import StoryTrace.Json.Layout

/-!
# Story metrics

How good a story is, as scores from zero to one, and how much was done for it, as counts and times.
-/

namespace StoryTrace

structure StoryMetrics where
  coherence : Float
  emotionalArc : Float
  themeClarity : Float
  dialogue : Float
  /-- How far each character has come. -/
  arcs : Table Float
  relationshipDepth : Float
  engineer : Float
  ceremony : Float
  storyEngine : Float
  crossUniverse : Float
  beats : Nat
  enrichments : Nat
  remediations : Nat
  decisions : Nat
  totalMs : Float
  averageBeatMs : Float

namespace StoryMetrics

/-- Middling scores, and nothing done yet. -/
def default : StoryMetrics :=
  { coherence := 0.5
    emotionalArc := 0.5
    themeClarity := 0.5
    dialogue := 0.5
    arcs := []
    relationshipDepth := 0.5
    engineer := 0.5
    ceremony := 0.5
    storyEngine := 0.5
    crossUniverse := 0.5
    beats := 0
    enrichments := 0
    remediations := 0
    decisions := 0
    totalMs := 0.0
    averageBeatMs := 0.0 }

/-- The weighted mean of the scores. -/
def quality (m : StoryMetrics) : Float :=
  m.coherence * 0.25 + m.emotionalArc * 0.25 + m.themeClarity * 0.20 + m.crossUniverse * 0.15 +
    m.dialogue * 0.15

/-- A score after a new sample, which counts for a tenth. -/
def blend (score sample : Float) : Float := score * 0.9 + sample * 0.1

/-- The metrics with the time that the whole story took, spread over its beats if it has any. -/
def withTotal (m : StoryMetrics) (totalMs : Float) : StoryMetrics :=
  { m with
    totalMs
    averageBeatMs := if 0 < m.beats then totalMs / Float.ofNat m.beats else m.averageBeatMs }

def toJson (m : StoryMetrics) : Json :=
  .object [("coherence_score", .ofFloat m.coherence),
    ("emotional_arc_strength", .ofFloat m.emotionalArc), ("theme_clarity", .ofFloat m.themeClarity),
    ("dialogue_consistency", .ofFloat m.dialogue),
    ("character_arc_completion", .object (m.arcs.map fun e => (e.1, .ofFloat e.2))),
    ("relationship_depth", .ofFloat m.relationshipDepth),
    ("engineer_alignment", .ofFloat m.engineer), ("ceremony_alignment", .ofFloat m.ceremony),
    ("story_engine_alignment", .ofFloat m.storyEngine),
    ("cross_universe_coherence", .ofFloat m.crossUniverse), ("beats_generated", .ofNat m.beats),
    ("enrichments_applied", .ofNat m.enrichments), ("gaps_remediated", .ofNat m.remediations),
    ("routing_decisions", .ofNat m.decisions), ("total_generation_time_ms", .ofFloat m.totalMs),
    ("average_beat_time_ms", .ofFloat m.averageBeatMs)]

/-- Numbers under texts, of which the last one under a text counts. -/
def arcs? (v : Json) : Option (Table Float) :=
  v.object?.bind fun members =>
    (members.mapM fun (e : String × Json) => e.2.float?.map fun x => (e.1, x)).map Table.ofList

/-- Every absent field has its default. -/
def ofJson? (v : Json) : Option StoryMetrics := do
  let l ← Json.Layout.of? 0 16 v
  let coherence ← l.withDefault 0 "coherence_score" default.coherence Json.float?
  let emotionalArc ← l.withDefault 1 "emotional_arc_strength" default.emotionalArc Json.float?
  let themeClarity ← l.withDefault 2 "theme_clarity" default.themeClarity Json.float?
  let dialogue ← l.withDefault 3 "dialogue_consistency" default.dialogue Json.float?
  let arcs ← l.withDefault 4 "character_arc_completion" default.arcs arcs?
  let relationshipDepth ← l.withDefault 5 "relationship_depth" default.relationshipDepth Json.float?
  let engineer ← l.withDefault 6 "engineer_alignment" default.engineer Json.float?
  let ceremony ← l.withDefault 7 "ceremony_alignment" default.ceremony Json.float?
  let storyEngine ← l.withDefault 8 "story_engine_alignment" default.storyEngine Json.float?
  let crossUniverse ← l.withDefault 9 "cross_universe_coherence" default.crossUniverse Json.float?
  let beats ← l.withDefault 10 "beats_generated" default.beats Json.nat32?
  let enrichments ← l.withDefault 11 "enrichments_applied" default.enrichments Json.nat32?
  let remediations ← l.withDefault 12 "gaps_remediated" default.remediations Json.nat32?
  let decisions ← l.withDefault 13 "routing_decisions" default.decisions Json.nat32?
  let totalMs ← l.withDefault 14 "total_generation_time_ms" default.totalMs Json.float?
  let averageBeatMs ← l.withDefault 15 "average_beat_time_ms" default.averageBeatMs Json.float?
  return { coherence, emotionalArc, themeClarity, dialogue, arcs, relationshipDepth, engineer,
           ceremony, storyEngine, crossUniverse, beats, enrichments, remediations, decisions,
           totalMs, averageBeatMs }

end StoryMetrics

end StoryTrace
