import StoryTrace.Run.Recorder
import StoryTrace.Story.Narrator
import StoryTrace.Story.Orchestrator

/-!
# Demonstration

A small retrieval pipeline and then the making of a story, recorded through one sink. The first
failure ends the demonstration.
-/

namespace StoryTrace.Demo

/-- What the parts of the demonstration know. -/
structure State where
  runs : RunMap
  board : StoryBoard
  narration : Narration

/-- The traces that were recorded, and the headers of a request that was made on the way. -/
structure Summary where
  pipelineTraceId : String
  storyTraceId : String
  headers : Headers
  deriving DecidableEq, Repr

variable {τ σ α : Type} [Sink σ]

/-- Work that may be refused, as a step. -/
def step (work : Work τ σ (Except SinkError α)) : Attempt StoryError τ σ α :=
  ExceptT.mk do return (← work).mapError .sink

/-- Work that is never refused, as a step. -/
def always (work : Work τ σ α) : Attempt StoryError τ σ α := ExceptT.lift work

def question : String := "Why do ravens gather at dusk?"

def story : String :=
  "The ravens returned to the tower at dusk, carrying news no one wanted to hear. " ++
    "Mia climbed the stairs two at a time, certain the message was meant for her."

/-- A start below another run. -/
def below (parent run : RunId) (kind : OperationKind) (input : RunInput) : RunStart :=
  { RunStart.new run kind input with parent := some parent }

def textObject (key value : String) : Json := .object [(key, .string value)]

def foundDocuments : List Document := [
  ⟨"Ravens form communal roosts in winter.", [("source", .string "field-notes")]⟩,
  ⟨"Roosts act as information centres.", [("source", .string "survey")]⟩]

/-- Records a chain with a retrieval, a failing search and a call of a model. -/
def pipelineSteps (r : Recorder) : Attempt StoryError RunMap σ String := do
  let chain ← always Work.newId
  let started ← step (r.start
    { RunStart.new chain .chain (.inputs (textObject "question" question)) with
      descriptor := .object [("id", .ofStrings ["demo", "chains", "RavenQA"])]
      tags := ["demo"] })
  let retrieval ← always Work.newId
  discard (step (r.start (below chain retrieval .retriever (.query "raven roosting behaviour"))))
  discard (step (Recorder.stop retrieval (.documents foundDocuments)))
  let search ← always Work.newId
  discard (step (r.start (below chain search .tool (.text "ravens dusk"))))
  let lookup : Except RunError String := .error ⟨"search index offline", some "Error"⟩
  discard (always (Recorder.settle search (fun s => some (Json.string s)) id lookup))
  let call ← always Work.newId
  discard (step (r.start
    { below chain call .completion
        (.prompts ["Answer using the documents: why do ravens gather?"]) with
      metadata := [("ls_model_name", .string "demo-model")] }))
  discard (step (Recorder.stop call
    (.generations [["They share information about food at communal roosts."]]
      (some (.ofCounts 42 17)))))
  discard (step (Recorder.stop chain
    (.value (textObject "answer" "To share information at roosts."))))
  return started.traceId

/-- Records the pipeline and closes its recorder, whatever the steps have come to. -/
def pipeline (r : Recorder) : Attempt StoryError RunMap σ String :=
  ExceptT.mk (r.bracket (pipelineSteps r).run)

/-- Work on the board of stories. -/
def onBoard (work : Work StoryBoard σ (Except StoryError α)) : Attempt StoryError State σ α :=
  ExceptT.mk (Work.within (·.board) (fun s board => { s with board }) work)

/-- Work of the narrator. -/
def narrating (work : Work Narration σ (Except SinkError α)) : Attempt StoryError State σ α :=
  step (Work.within (·.narration) (fun s narration => { s with narration }) work)

def firstBeat : BeatCreation :=
  { beatId := "beat_001"
    content := story
    sequence := 1
    function := "inciting_incident"
    source := BeatCreation.usualSource
    characterId := some "mia"
    emotionalTone := some "foreboding"
    parentId := none }

/-- The making of the story, with the headers of a request to another system. -/
def storySteps (n : Narrator) (traceId : String) : Attempt StoryError State σ Headers := do
  discard (narrating (n.tell (.beat firstBeat)))
  discard (onBoard (Orchestrator.openSpan traceId (.beat firstBeat)))
  let analysis ← onBoard (Orchestrator.openSpan traceId
    (.analysis "emotional" (some firstBeat.beatId) none none))
  discard (onBoard (Orchestrator.setOutput analysis
    (.object [("classification", .string "foreboding"), ("confidence", .ofFloat 0.82)])))
  discard (narrating (n.tell (.analysis
    { beatId := firstBeat.beatId
      analysisType := "emotional"
      classification := "foreboding"
      confidence := 0.82
      emotions := ["dread", "curiosity"]
      parentId := none })))
  discard (narrating (n.tell (.universes
    { eventId := "evt_001"
      engineer := ⟨"deliver_message", 0.7⟩
      ceremony := ⟨"honor_omen", 0.8⟩
      storyEngine := ⟨"raise_stakes", 0.9⟩
      leadUniverse := "story_engine"
      coherence := 0.85
      parentId := none })))
  discard (narrating (n.tell (.routing
    (.new "route_001" "flowise" "dialogue_enhancer" 0.91))))
  let flow ← onBoard (Orchestrator.openSpan traceId
    (.flow "dialogue_enhancer" "flowise" (some "enrich_dialogue") none none))
  let board := (← always Work.state).board
  let headers := (Orchestrator.inject board [] (some traceId) (some flow)).getD []
  let external ← always Work.newId
  discard (onBoard do return .ok (← Orchestrator.link traceId external "flowise"))
  discard (onBoard (Orchestrator.setOutput flow (.object [("enriched", .bool true)])))
  discard (onBoard (Orchestrator.openSpan traceId
    (.enrichment firstBeat.beatId "dialogue" ["dialogue_enhancer"] (some flow))))
  discard (narrating (n.tell (.enrichment
    { beatId := firstBeat.beatId
      enrichmentType := "dialogue"
      flows := ["dialogue_enhancer"]
      qualityBefore := 0.55
      qualityAfter := 0.78
      parentId := none })))
  discard (narrating (n.tell (.arc
    { characterId := "mia"
      characterName := "Mia"
      positionBefore := 0.1
      positionAfter := 0.3
      growth := "Chooses to read the message"
      beatId := some firstBeat.beatId
      parentId := none })))
  return headers

/-- The narrator of an active story. -/
def narratorOf (c : TracingConfig) (a : ActiveStory) : Narrator :=
  { Narrator.ofConfig c with traceId := some a.traceId, sessionId := some a.sessionId }

/-- Makes a story and finalizes it. -/
def makeStory (c : TracingConfig) (storyId : String) :
    Attempt StoryError State σ (String × Headers) := do
  let root ← onBoard ((Orchestrator.ofConfig c).createRoot storyId none none [])
  let narrator := narratorOf c root
  let opening ← narrating (narrator.openStory none)
  let told ← always (storySteps narrator opening.traceId).run
  narrating do return .ok (← narrator.closeStory opening)
  let headers ← ExceptT.mk (pure told)
  let metrics := (← always Work.state).narration.metrics
  let completed ← onBoard (Orchestrator.finalize root.traceId (some story) (some metrics))
  narrating do return .ok (← narrator.close)
  return (completed.traceId, headers)

/-- The whole demonstration. -/
def run (c : TracingConfig) (storyId : String) : Attempt StoryError State σ Summary := do
  let pipelineTraceId ← ExceptT.mk (Work.within (·.runs) (fun s runs => { s with runs })
    (pipeline (Recorder.ofConfig c)).run)
  let (storyTraceId, headers) ← makeStory c storyId
  return ⟨pipelineTraceId, storyTraceId, headers⟩

/-- What is known before the demonstration. -/
def State.start (storyId : String) : State := ⟨.empty, .empty, ⟨storyId, none, .default⟩⟩

/-- The result of the demonstration with a sink and a supply, and the sink after it. -/
def perform (c : TracingConfig) (storyId : String) (sink : σ) (supply : Supply) :
    Except StoryError Summary × σ :=
  let (result, after) := (run c storyId).run ⟨.start storyId, sink, supply⟩
  (result, after.sink)

end StoryTrace.Demo
