import StoryTrace.Story.Metrics
import StoryTrace.Story.Span
import StoryTrace.Text.Preview

/-!
# Story events

What is told of a story while it is made. Every note has an event, which becomes a closed span, and
a tally, which is its effect on the metrics of the story.
-/

namespace StoryTrace

structure StoryEvent where
  kind : StoryKind
  input : Metadata := []
  output : Option Metadata := none
  metadata : Metadata := []
  parentId : Option String := none
  beatId : Option String := none
  characterIds : List String := []
  emotionalTone : Option String := none
  leadUniverse : Option String := none

namespace StoryEvent

/-- The name of the event with its beat, or else its universe. -/
def spanName (e : StoryEvent) : String :=
  e.kind.nameWith (e.beatId.orElse fun _ => e.leadUniverse)

/-- What the span of the event says about it. Metadata of its own win. -/
def spanMetadata (e : StoryEvent) (storyId : String) : Metadata :=
  (Table.ofList [("event_type", .string e.kind.text), ("story_id", .string storyId),
    ("beat_id", .ofOption .string e.beatId), ("character_ids", .ofStrings e.characterIds),
    ("emotional_tone", .ofOption .string e.emotionalTone),
    ("lead_universe", .ofOption .string e.leadUniverse)]).merge e.metadata

end StoryEvent

/-- A new beat of a story. -/
structure BeatCreation where
  beatId : String
  content : String
  sequence : Nat
  /-- What the beat does for the story. -/
  function : String
  source : String
  characterId : Option String
  emotionalTone : Option String
  parentId : Option String
  deriving DecidableEq, Repr

namespace BeatCreation

def usualSource : String := "generator"

def previewLength : Nat := 200

def contentPreview (b : BeatCreation) : String := Text.preview b.content previewLength

end BeatCreation

/-- What a beat was found to express. -/
structure BeatAnalysis where
  beatId : String
  analysisType : String
  classification : String
  confidence : Float
  emotions : List String
  parentId : Option String

/-- Work that has made a beat better. -/
structure Enrichment where
  beatId : String
  enrichmentType : String
  flows : List String
  qualityBefore : Float
  qualityAfter : Float
  parentId : Option String

/-- How one universe reads an event. -/
structure Perspective where
  intent : String
  confidence : Float

def Perspective.toJson (p : Perspective) : Json :=
  .object [("confidence", .ofFloat p.confidence), ("intent", .string p.intent)]

/-- How the three universes read an event. -/
structure UniverseAnalysis where
  eventId : String
  engineer : Perspective
  ceremony : Perspective
  storyEngine : Perspective
  leadUniverse : String
  coherence : Float
  parentId : Option String

/-- How far a character has come. -/
structure ArcUpdate where
  characterId : String
  characterName : String
  positionBefore : Float
  positionAfter : Float
  growth : String
  beatId : Option String
  parentId : Option String

/-- Which flow of which backend is to go on. -/
structure RoutingDecision where
  decisionId : String
  backend : String
  flow : String
  score : Float
  method : String
  leadUniverse : Option String
  act : Option Nat
  phase : Option String
  success : Bool
  latencyMs : Float
  parentId : Option String

/-- A decision by the story itself that has succeeded at once. -/
def RoutingDecision.new (decisionId backend flow : String) (score : Float) : RoutingDecision :=
  ⟨decisionId, backend, flow, score, "narrative", none, none, none, true, 0.0, none⟩

/-- A saved state of a story. -/
structure Checkpoint where
  checkpointId : String
  storyId : String
  beatCount : Nat
  act : Nat
  phase : String
  coherence : Float
  parentId : Option String

/-- The end of an episode. -/
structure EpisodeBoundary where
  episodeId : String
  beatCount : Nat
  reason : String
  parentId : Option String

/-- Something that the story lacks. -/
structure Gap where
  gapType : String
  description : String
  severity : Float
  beatId : Option String
  remediation : Option String
  parentId : Option String

/-- An attempt to close a gap. -/
structure GapRemediation where
  gapType : String
  method : String
  flows : List String
  success : Bool
  beatId : Option String
  parentId : Option String

inductive StoryNote where
  | beat (b : BeatCreation)
  | analysis (a : BeatAnalysis)
  | enrichment (e : Enrichment)
  | universes (u : UniverseAnalysis)
  | arc (a : ArcUpdate)
  | routing (r : RoutingDecision)
  | checkpoint (c : Checkpoint)
  | episode (e : EpisodeBoundary)
  | gap (g : Gap)
  | remediation (g : GapRemediation)

namespace StoryNote

/-- A place in a story: an act and a phase of it. -/
def place (act : Json) (phase : Json) : Json := .object [("act", act), ("phase", phase)]

/-- The event that tells of a note. -/
def event : StoryNote → StoryEvent
  | .beat b =>
    { kind := .beatCreated
      input := Table.ofList [("sequence", .ofNat b.sequence),
        ("narrative_function", .string b.function), ("source", .string b.source)]
      output := some (Table.ofList [("beat_id", .string b.beatId),
        ("content_preview", .string b.contentPreview)])
      beatId := some b.beatId
      characterIds := b.characterId.toList
      emotionalTone := b.emotionalTone
      parentId := b.parentId }
  | .analysis a =>
    { kind := .beatAnalyzed
      input := Table.ofList [("beat_id", .string a.beatId),
        ("analysis_type", .string a.analysisType)]
      output := some (Table.ofList [("classification", .string a.classification),
        ("confidence", .ofFloat a.confidence), ("detected_emotions", .ofStrings a.emotions)])
      beatId := some a.beatId
      emotionalTone := some a.classification
      parentId := a.parentId }
  | .enrichment e =>
    { kind := .beatEnriched
      input := Table.ofList [("beat_id", .string e.beatId),
        ("enrichment_type", .string e.enrichmentType), ("flows_used", .ofStrings e.flows),
        ("quality_before", .ofFloat e.qualityBefore)]
      output := some (Table.ofList [("quality_after", .ofFloat e.qualityAfter),
        ("improvement", .ofFloat (e.qualityAfter - e.qualityBefore))])
      beatId := some e.beatId
      parentId := e.parentId }
  | .universes u =>
    { kind := .universeAnalysis
      input := Table.ofList [("event_id", .string u.eventId)]
      output := some (Table.ofList [("engineer", u.engineer.toJson),
        ("ceremony", u.ceremony.toJson), ("story_engine", u.storyEngine.toJson),
        ("lead_universe", .string u.leadUniverse), ("coherence_score", .ofFloat u.coherence)])
      metadata := Table.ofList [("coherence_score", .ofFloat u.coherence)]
      leadUniverse := some u.leadUniverse
      parentId := u.parentId }
  | .arc a =>
    { kind := .characterArcUpdated
      input := Table.ofList [("character_id", .string a.characterId),
        ("character_name", .string a.characterName),
        ("arc_position_before", .ofFloat a.positionBefore)]
      output := some (Table.ofList [("arc_position_after", .ofFloat a.positionAfter),
        ("growth", .ofFloat (a.positionAfter - a.positionBefore)),
        ("growth_description", .string a.growth)])
      beatId := a.beatId
      characterIds := [a.characterId]
      parentId := a.parentId }
  | .routing r =>
    { kind := .routingDecision
      input := Table.ofList [("decision_id", .string r.decisionId), ("method", .string r.method),
        ("lead_universe", .ofOption .string r.leadUniverse),
        ("narrative_position", place (.ofOption .ofNat r.act) (.ofOption .string r.phase))]
      output := some (Table.ofList [("backend", .string r.backend), ("flow", .string r.flow),
        ("score", .ofFloat r.score), ("success", .bool r.success),
        ("latency_ms", .ofFloat r.latencyMs)])
      metadata := Table.ofList [("backend", .string r.backend), ("flow", .string r.flow)]
      leadUniverse := r.leadUniverse
      parentId := r.parentId }
  | .checkpoint c =>
    { kind := .checkpointSaved
      input := Table.ofList [("story_id", .string c.storyId)]
      output := some (Table.ofList [("checkpoint_id", .string c.checkpointId),
        ("beat_count", .ofNat c.beatCount),
        ("narrative_position", place (.ofNat c.act) (.string c.phase)),
        ("overall_coherence", .ofFloat c.coherence)])
      metadata := Table.ofList [("checkpoint_id", .string c.checkpointId)]
      parentId := c.parentId }
  | .episode e =>
    { kind := .episodeBoundary
      input := Table.ofList [("reason", .string e.reason), ("beat_count", .ofNat e.beatCount)]
      output := some (Table.ofList [("episode_id", .string e.episodeId)])
      metadata := Table.ofList [("episode_id", .string e.episodeId)]
      parentId := e.parentId }
  | .gap g =>
    { kind := .gapIdentified
      input := Table.ofList [("beat_id", .ofOption .string g.beatId)]
      output := some (Table.ofList [("gap_type", .string g.gapType),
        ("description", .string g.description), ("severity", .ofFloat g.severity),
        ("suggested_remediation", .ofOption .string g.remediation)])
      beatId := g.beatId
      parentId := g.parentId }
  | .remediation g =>
    { kind := .gapRemediated
      input := Table.ofList [("gap_type", .string g.gapType),
        ("remediation_method", .string g.method)]
      output := some (Table.ofList [("flows_used", .ofStrings g.flows),
        ("success", .bool g.success)])
      beatId := g.beatId
      parentId := g.parentId }

/-- The metrics after a note. A remediation counts only if it has succeeded. -/
def tally (m : StoryMetrics) : StoryNote → StoryMetrics
  | .beat _ => { m with beats := m.beats + 1 }
  | .enrichment _ => { m with enrichments := m.enrichments + 1 }
  | .universes u =>
    { m with
      engineer := StoryMetrics.blend m.engineer u.engineer.confidence
      ceremony := StoryMetrics.blend m.ceremony u.ceremony.confidence
      storyEngine := StoryMetrics.blend m.storyEngine u.storyEngine.confidence
      crossUniverse := StoryMetrics.blend m.crossUniverse u.coherence }
  | .arc a => { m with arcs := m.arcs.put a.characterId a.positionAfter }
  | .routing _ => { m with decisions := m.decisions + 1 }
  | .remediation g => if g.success then { m with remediations := m.remediations + 1 } else m
  | _ => m

end StoryNote

end StoryTrace
