import StoryTrace.Story.Completed

/-!
# Orchestrators

An orchestrator keeps the stories that are being made, each with its root trace, its spans and the
systems it has come to, until the story is finalized. What the sink refuses to create is not kept.
-/

namespace StoryTrace

/-- A story that is being made. -/
structure ActiveStory where
  traceId : String
  storyId : String
  sessionId : String
  /-- Its spans, in the order of their creation. -/
  spanIds : List String
  createdAt : Instant
  correlation : Correlation
  deriving DecidableEq, Repr

def ActiveStory.toJson (a : ActiveStory) : Json :=
  .object [("trace_id", .string a.traceId), ("story_id", .string a.storyId),
    ("session_id", .string a.sessionId), ("child_span_ids", .ofStrings a.spanIds),
    ("created_at", a.createdAt.toJson), ("correlation", a.correlation.toJson)]

/-- The stories that are being made, under their traces, and their spans. -/
structure StoryBoard where
  active : Table ActiveStory
  spans : Table StorySpan

/-- A span that is to be opened for a story. One that has an output is closed at once. -/
structure SpanPlan where
  kind : StoryKind
  name : String
  input : Json
  output : Option Json := none
  metadata : Metadata := []
  parentId : Option String := none
  beatId : Option String := none
  characterIds : List String := []
  emotionalTone : Option String := none
  /-- The system that the story comes to with the span. -/
  visits : Option String := none

structure Orchestrator where
  sessionId : Option String
  /-- The first system of every correlation path. -/
  system : String
  deriving DecidableEq, Repr

namespace StoryBoard

def empty : StoryBoard := ⟨[], []⟩

def setStory (b : StoryBoard) (a : ActiveStory) : StoryBoard :=
  { b with active := b.active.put a.traceId a }

def setSpan (b : StoryBoard) (s : StorySpan) : StoryBoard :=
  { b with spans := b.spans.put s.id s }

/-- The board with a span added to a story. -/
def addSpan (b : StoryBoard) (a : ActiveStory) (s : StorySpan) (visits : Option String) :
    StoryBoard :=
  let correlation := match visits with
    | some system => a.correlation.visit system
    | none => a.correlation
  { active := b.active.put a.traceId { a with spanIds := a.spanIds ++ [s.id], correlation }
    spans := b.spans.put s.id s }

/-- The board without a story and its spans. -/
def remove (b : StoryBoard) (a : ActiveStory) : StoryBoard :=
  { active := b.active.erase a.traceId, spans := a.spanIds.foldl Table.erase b.spans }

/-- The spans of a story that are on the board. -/
def spansOf (b : StoryBoard) (a : ActiveStory) : List StorySpan := a.spanIds.filterMap b.spans.get?

end StoryBoard

namespace SpanPlan

/-- What the span says about the story. Metadata of the plan win. -/
def fullMetadata (p : SpanPlan) (storyId : String) : Metadata :=
  let own := Table.ofList [("event_type", .string p.kind.text), ("story_id", .string storyId)]
  own.merge p.metadata

/-- The span as it is recorded. -/
def span (p : SpanPlan) (a : ActiveStory) (id : String) (started ended : Instant) : Span :=
  let opened :=
    { Span.new id a.traceId p.name started with
      parentId := p.parentId
      input := p.input
      metadata := p.fullMetadata a.storyId }
  match p.output with
  | some output => opened.finished (some output) ended
  | none => opened

/-- The span as the story keeps it. -/
def storySpan (p : SpanPlan) (a : ActiveStory) (id : String) (started ended : Instant) :
    StorySpan :=
  let opened :=
    { StorySpan.new id a.traceId p.kind a.storyId started with
      sessionId := some a.sessionId
      beatId := p.beatId
      characterIds := p.characterIds
      emotionalTone := p.emotionalTone
      parentId := p.parentId
      metadata := p.fullMetadata a.storyId
      input := StorySpan.objectOf p.input }
  match p.output with
  | some output => { opened with output := StorySpan.objectOf output }.finish ended
  | none => opened

/-- A name with a remark in parentheses, if there is one. -/
def named (name : String) (remark : Option String) : String :=
  match remark with
  | some remark => name ++ " (" ++ remark ++ ")"
  | none => name

/-- The closed span of a new beat. -/
def beat (b : BeatCreation) : SpanPlan :=
  { kind := .beatCreated
    name := named ("📝 Beat " ++ toString b.sequence ++ ": " ++ b.beatId) b.emotionalTone
    input := .object (Table.ofList [("beat_id", .string b.beatId), ("sequence", .ofNat b.sequence),
      ("narrative_function", .string b.function)])
    output := some (.object [("content_preview", .string b.contentPreview)])
    metadata := Table.ofList [("beat_id", .string b.beatId),
      ("emotional_tone", .ofOption .string b.emotionalTone),
      ("character_id", .ofOption .string b.characterId)]
    parentId := b.parentId
    beatId := some b.beatId
    characterIds := b.characterId.toList
    emotionalTone := b.emotionalTone }

def analysisGlyph (analysisType : String) : String :=
  if analysisType = "emotional" then "🔍"
  else if analysisType = "thematic" then "🎨"
  else if analysisType = "character_arc" then "🎭"
  else if analysisType = "three_universe" then "🌌"
  else "🔬"

/-- The open span of an analysis. Its input tells its type and beat unless another one is given. -/
def analysis (analysisType : String) (beatId parentId : Option String) (input : Option Json) :
    SpanPlan :=
  { kind := .beatAnalyzed
    name := named (analysisGlyph analysisType ++ " " ++ Text.titleCase (Text.spaced analysisType) ++
      " Analysis") beatId
    input := input.getD (.object (Table.ofList [("analysis_type", .string analysisType),
      ("beat_id", .ofOption .string beatId)]))
    metadata := Table.ofList [("analysis_type", .string analysisType),
      ("beat_id", .ofOption .string beatId)]
    parentId
    beatId }

/-- The open span of a flow that runs on a backend. -/
def flow (flowId backend : String) (intent parentId : Option String) (input : Option Json) :
    SpanPlan :=
  { kind := .flowExecuted
    name := named ("🚀 " ++ Text.titleCase backend ++ " Flow: " ++ flowId)
      (intent.map ("intent: " ++ ·))
    input := input.getD (.object (Table.ofList [("flow_id", .string flowId),
      ("backend", .string backend)]))
    metadata := Table.ofList [("flow_id", .string flowId), ("backend", .string backend),
      ("intent", .ofOption .string intent)]
    parentId
    visits := some backend }

/-- The open span of the enrichment of a beat. -/
def enrichment (beatId enrichmentType : String) (flows : List String) (parentId : Option String) :
    SpanPlan :=
  { kind := .beatEnriched
    name := named ("✨ Enrichment: " ++ enrichmentType) (some beatId)
    input := .object (Table.ofList [("beat_id", .string beatId),
      ("enrichment_type", .string enrichmentType), ("flows_used", .ofStrings flows)])
    metadata := Table.ofList [("beat_id", .string beatId),
      ("enrichment_type", .string enrichmentType)]
    parentId
    beatId := some beatId }

end SpanPlan

namespace Orchestrator

variable {σ : Type} [Sink σ]

def ofConfig (c : TracingConfig) : Orchestrator := ⟨c.sessionId, localSystem⟩

/-- Creates the root trace of a story. The session is the given one, else that of the settings,
else a new one. -/
def createRoot (o : Orchestrator) (storyId : String) (sessionId traceId : Option String)
    (metadata : Metadata) : Work StoryBoard σ (Except StoryError ActiveStory) := do
  let traceId := traceId.getD (← Work.newId)
  let sessionId := (sessionId.orElse fun _ => o.sessionId).getD (← Work.newId)
  let created ← Work.now
  let trace := rootTrace traceId storyId (some sessionId) created (Rfc3339.offsetText (← Work.now))
  let story : ActiveStory :=
    { traceId, storyId, sessionId
      spanIds := []
      createdAt := created
      correlation := .start traceId storyId sessionId o.system (← Work.now) }
  match ← Work.send (.createTrace { trace with metadata := trace.metadata.merge metadata }) with
  | .error e => return .error (.sink e)
  | .ok () =>
    Work.change (·.setStory story)
    return .ok story

/-- Opens a span for a story and answers with its id. -/
def openSpan (traceId : String) (p : SpanPlan) :
    Work StoryBoard σ (Except StoryError String) := do
  match (← Work.state).active.get? traceId with
  | none => return .error (.unknownTrace traceId)
  | some story =>
    let id ← Work.newId
    let recorded := p.span story id (← Work.now) (← Work.now)
    let kept := p.storySpan story id (← Work.now) (← Work.now)
    match ← Work.send (.createSpan recorded) with
    | .error e => return .error (.sink e)
    | .ok () =>
      Work.change (·.addSpan story kept p.visits)
      return .ok id

/-- Sends the closure of a span. -/
def sendClosure (c : Closure) : Work StoryBoard σ (Except StoryError Bool) := do
  match ← Work.send (.endSpan c) with
  | .error e => return .error (.sink e)
  | .ok () => return .ok true

/-- Gives a span its output, and closes it if it is open. Tells whether the span is known. -/
def setOutput (spanId : String) (output : Json) : Work StoryBoard σ (Except StoryError Bool) := do
  match (← Work.state).spans.get? spanId with
  | none => return .ok false
  | some known =>
    let given := match output with
      | .object members => { known with output := members }
      | _ => known
    match known.endTime with
    | some _ =>
      Work.change (·.setSpan given)
      return .ok true
    | none =>
      let ended := given.finish (← Work.now)
      Work.change (·.setSpan ended)
      sendClosure (.succeeded spanId known.traceId (some output) (← Work.now))

/-- Marks a span as failed, and closes it if it is open. Tells whether the span is known. -/
def setError (spanId : String) (message : String) :
    Work StoryBoard σ (Except StoryError Bool) := do
  match (← Work.state).spans.get? spanId with
  | none => return .ok false
  | some known =>
    let failed := known.fail message (← Work.now)
    Work.change (·.setSpan failed)
    match known.endTime with
    | some _ => return .ok true
    | none => sendClosure (.failed spanId known.traceId message none (← Work.now))

/-- The headers for a request that is made for a story, if the story is active. -/
def inject (b : StoryBoard) (h : Headers) (traceId parentId : Option String) : Option Headers :=
  (traceId.bind b.active.get?).map fun story =>
    CorrelationContext.writeTo
      ⟨some story.traceId, some story.storyId, some story.sessionId, parentId⟩ h

/-- Notes a trace of another system as a child of a story, and tells whether it did. -/
def link (traceId externalId system : String) : Work StoryBoard σ Bool := do
  match (← Work.state).active.get? traceId with
  | none => return false
  | some story =>
    let correlation := story.correlation.addChild externalId system
    Work.change (·.setStory { story with correlation })
    return true

/-- The number of characters of a story that the output of its trace keeps. -/
def previewLength : Nat := 500

/-- The output that the trace of a finished story gets. -/
def outcome (content : Option String) (beatCount : Nat) (durationMs : Float)
    (metrics : Option StoryMetrics) : Json :=
  .object (Table.ofList [
    ("final_story_preview", .ofOption .string (content.map (Text.preview · previewLength))),
    ("beat_count", .ofNat beatCount), ("duration_ms", .ofFloat durationMs),
    ("metrics", .ofOption (fun m => m.toJson.canonical) metrics)])

/-- The completed form of a story on the board. -/
def complete (b : StoryBoard) (story : ActiveStory) (content : Option String)
    (metrics : Option StoryMetrics) (now : Instant) : CompletedStory :=
  { traceId := story.traceId
    storyId := story.storyId
    sessionId := story.sessionId
    spans := b.spansOf story
    startTime := story.createdAt
    endTime := now
    durationMs := story.createdAt.millisFloat now
    metrics
    content
    beatCount := CompletedStory.countBeats (b.spansOf story)
    correlation := some story.correlation }

/-- Ends a story: its outcome is written, it is kept no longer, and the sink is flushed. A flush
that fails is passed over. -/
def finalize (traceId : String) (content : Option String) (metrics : Option StoryMetrics) :
    Work StoryBoard σ (Except StoryError CompletedStory) := do
  let board ← Work.state
  match board.active.get? traceId with
  | none => return .error (.unknownTrace traceId)
  | some story =>
    let completed := complete board story content metrics (← Work.now)
    let output := outcome content completed.beatCount completed.durationMs metrics
    match ← Work.send (.updateTrace ⟨traceId, some output, []⟩) with
    | .error e => return .error (.sink e)
    | .ok () =>
      Work.put (board.remove story)
      discard Work.flush
      return .ok completed

end Orchestrator

end StoryTrace
