import StoryTrace.Story.Event
import StoryTrace.Story.Orchestrator

/-!
# Story events, notes and plans as JSON

What can be told of a story, as objects. Each kind of note or planned span has a name and fields of
its own, and any of them can name the span that it belongs under.
-/

namespace StoryTrace

open Json (Layout)

def StoryEvent.ofJson? (v : Json) : Option StoryEvent := do
  let l ← Layout.ofObject? v
  let kind ← l.required 0 "event_type" (Json.choice? StoryKind.names)
  let metadata ← l.metadata 0 "metadata"
  let parentId ← l.optional 0 "parent" Json.string?
  let beatId ← l.optional 0 "beat_id" Json.string?
  let characterIds ← l.withDefault 0 "characters" [] Json.strings?
  let emotionalTone ← l.optional 0 "tone" Json.string?
  let leadUniverse ← l.optional 0 "universe" Json.string?
  return { kind, metadata, parentId, beatId, characterIds, emotionalTone, leadUniverse
           input := StorySpan.objectOf ((v.field? "input").getD .null)
           output := (v.field? "output").bind Json.object? }

def BeatCreation.ofJson? (v : Json) : Option BeatCreation := do
  let l ← Layout.ofObject? v
  let beatId ← l.required 0 "beat_id" Json.string?
  let content ← l.required 0 "content" Json.string?
  let sequence ← l.required 0 "sequence" Json.nat32?
  let function ← l.required 0 "function" Json.string?
  let source ← l.optional 0 "source" Json.string?
  let characterId ← l.optional 0 "character" Json.string?
  let emotionalTone ← l.optional 0 "tone" Json.string?
  let parentId ← l.optional 0 "parent" Json.string?
  return { beatId, content, sequence, function, source := source.getD usualSource, characterId,
           emotionalTone, parentId }

def BeatAnalysis.ofJson? (v : Json) : Option BeatAnalysis := do
  let l ← Layout.ofObject? v
  let beatId ← l.required 0 "beat_id" Json.string?
  let analysisType ← l.required 0 "analysis_type" Json.string?
  let classification ← l.required 0 "classification" Json.string?
  let confidence ← l.required 0 "confidence" Json.float?
  let emotions ← l.required 0 "emotions" Json.strings?
  let parentId ← l.optional 0 "parent" Json.string?
  return { beatId, analysisType, classification, confidence, emotions, parentId }

def Enrichment.ofJson? (v : Json) : Option Enrichment := do
  let l ← Layout.ofObject? v
  let beatId ← l.required 0 "beat_id" Json.string?
  let enrichmentType ← l.required 0 "enrichment_type" Json.string?
  let flows ← l.required 0 "flows" Json.strings?
  let qualityBefore ← l.required 0 "before" Json.float?
  let qualityAfter ← l.required 0 "after" Json.float?
  let parentId ← l.optional 0 "parent" Json.string?
  return { beatId, enrichmentType, flows, qualityBefore, qualityAfter, parentId }

def Perspective.ofJson? (v : Json) : Option Perspective := do
  let l ← Layout.ofObject? v
  let intent ← l.required 0 "intent" Json.string?
  let confidence ← l.required 0 "confidence" Json.float?
  return { intent, confidence }

def UniverseAnalysis.ofJson? (v : Json) : Option UniverseAnalysis := do
  let l ← Layout.ofObject? v
  let eventId ← l.required 0 "event_id" Json.string?
  let engineer ← l.required 0 "engineer" Perspective.ofJson?
  let ceremony ← l.required 0 "ceremony" Perspective.ofJson?
  let storyEngine ← l.required 0 "story_engine" Perspective.ofJson?
  let leadUniverse ← l.required 0 "lead" Json.string?
  let coherence ← l.required 0 "coherence" Json.float?
  let parentId ← l.optional 0 "parent" Json.string?
  return { eventId, engineer, ceremony, storyEngine, leadUniverse, coherence, parentId }

def ArcUpdate.ofJson? (v : Json) : Option ArcUpdate := do
  let l ← Layout.ofObject? v
  let characterId ← l.required 0 "character_id" Json.string?
  let characterName ← l.required 0 "character_name" Json.string?
  let positionBefore ← l.required 0 "before" Json.float?
  let positionAfter ← l.required 0 "after" Json.float?
  let growth ← l.required 0 "growth" Json.string?
  let beatId ← l.optional 0 "beat_id" Json.string?
  let parentId ← l.optional 0 "parent" Json.string?
  return { characterId, characterName, positionBefore, positionAfter, growth, beatId, parentId }

def RoutingDecision.ofJson? (v : Json) : Option RoutingDecision := do
  let l ← Layout.ofObject? v
  let decisionId ← l.required 0 "decision_id" Json.string?
  let backend ← l.required 0 "backend" Json.string?
  let flow ← l.required 0 "flow" Json.string?
  let score ← l.required 0 "score" Json.float?
  let plain := RoutingDecision.new decisionId backend flow score
  let method ← l.optional 0 "method" Json.string?
  let leadUniverse ← l.optional 0 "lead" Json.string?
  let act ← l.optional 0 "act" Json.nat32?
  let phase ← l.optional 0 "phase" Json.string?
  let success ← l.optional 0 "success" Json.bool?
  let latencyMs ← l.optional 0 "latency_ms" Json.float?
  let parentId ← l.optional 0 "parent" Json.string?
  return { plain with
    method := method.getD plain.method
    leadUniverse
    act
    phase
    success := success.getD plain.success
    latencyMs := latencyMs.getD plain.latencyMs
    parentId }

def Checkpoint.ofJson? (v : Json) : Option Checkpoint := do
  let l ← Layout.ofObject? v
  let checkpointId ← l.required 0 "checkpoint_id" Json.string?
  let storyId ← l.required 0 "story_id" Json.string?
  let beatCount ← l.required 0 "beat_count" Json.nat32?
  let act ← l.required 0 "act" Json.nat32?
  let phase ← l.required 0 "phase" Json.string?
  let coherence ← l.required 0 "coherence" Json.float?
  let parentId ← l.optional 0 "parent" Json.string?
  return { checkpointId, storyId, beatCount, act, phase, coherence, parentId }

def EpisodeBoundary.ofJson? (v : Json) : Option EpisodeBoundary := do
  let l ← Layout.ofObject? v
  let episodeId ← l.required 0 "episode_id" Json.string?
  let beatCount ← l.required 0 "beat_count" Json.nat32?
  let reason ← l.required 0 "reason" Json.string?
  let parentId ← l.optional 0 "parent" Json.string?
  return { episodeId, beatCount, reason, parentId }

def Gap.ofJson? (v : Json) : Option Gap := do
  let l ← Layout.ofObject? v
  let gapType ← l.required 0 "gap_type" Json.string?
  let description ← l.required 0 "description" Json.string?
  let severity ← l.required 0 "severity" Json.float?
  let beatId ← l.optional 0 "beat_id" Json.string?
  let remediation ← l.optional 0 "remediation" Json.string?
  let parentId ← l.optional 0 "parent" Json.string?
  return { gapType, description, severity, beatId, remediation, parentId }

def GapRemediation.ofJson? (v : Json) : Option GapRemediation := do
  let l ← Layout.ofObject? v
  let gapType ← l.required 0 "gap_type" Json.string?
  let method ← l.required 0 "method" Json.string?
  let flows ← l.required 0 "flows" Json.strings?
  let success ← l.optional 0 "success" Json.bool?
  let beatId ← l.optional 0 "beat_id" Json.string?
  let parentId ← l.optional 0 "parent" Json.string?
  return { gapType, method, flows, success := success.getD false, beatId, parentId }

def SpanPlan.analysisOfJson? (v : Json) : Option SpanPlan := do
  let l ← Layout.ofObject? v
  let analysisType ← l.required 0 "analysis_type" Json.string?
  let beatId ← l.optional 0 "beat_id" Json.string?
  let parentId ← l.optional 0 "parent" Json.string?
  return analysis analysisType beatId parentId (v.field? "input")

def SpanPlan.flowOfJson? (v : Json) : Option SpanPlan := do
  let l ← Layout.ofObject? v
  let flowId ← l.required 0 "flow_id" Json.string?
  let backend ← l.required 0 "backend" Json.string?
  let intent ← l.optional 0 "intent" Json.string?
  let parentId ← l.optional 0 "parent" Json.string?
  return flow flowId backend intent parentId (v.field? "input")

def SpanPlan.enrichmentOfJson? (v : Json) : Option SpanPlan := do
  let l ← Layout.ofObject? v
  let beatId ← l.required 0 "beat_id" Json.string?
  let enrichmentType ← l.required 0 "enrichment_type" Json.string?
  let flows ← l.required 0 "flows" Json.strings?
  let parentId ← l.optional 0 "parent" Json.string?
  return enrichment beatId enrichmentType flows parentId

/-- How the planned spans with a given name are read. -/
def SpanPlan.readers : List (String × (Json → Option SpanPlan)) := [
  ("beat", fun v => (BeatCreation.ofJson? v).map beat),
  ("analysis", analysisOfJson?),
  ("flow", flowOfJson?),
  ("enrichment", enrichmentOfJson?)]

/-- How the notes with a given name are read. -/
def StoryNote.readers : List (String × (Json → Option StoryNote)) := [
  ("beat", fun v => (BeatCreation.ofJson? v).map .beat),
  ("beat_analysis", fun v => (BeatAnalysis.ofJson? v).map .analysis),
  ("enrichment", fun v => (Enrichment.ofJson? v).map .enrichment),
  ("universes", fun v => (UniverseAnalysis.ofJson? v).map .universes),
  ("arc", fun v => (ArcUpdate.ofJson? v).map .arc),
  ("routing", fun v => (RoutingDecision.ofJson? v).map .routing),
  ("checkpoint", fun v => (Checkpoint.ofJson? v).map .checkpoint),
  ("episode", fun v => (EpisodeBoundary.ofJson? v).map .episode),
  ("gap", fun v => (Gap.ofJson? v).map .gap),
  ("gap_fixed", fun v => (GapRemediation.ofJson? v).map .remediation)]

end StoryTrace
