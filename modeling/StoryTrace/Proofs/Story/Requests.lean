import StoryTrace.Proofs.Sink.Watched
import StoryTrace.Story.Orchestrator

/-!
# Requests to an orchestrator

All that a request can do to the board, to the sink and to the supply, with the response to it. A
span is ended before the sink answers, so whether the closure is refused makes no difference to the
board.
-/

namespace StoryTrace

namespace Orchestrator

variable {σ : Type}

/-- The calls that change the state of an orchestrator or reach its sink. -/
inductive Request where
  | createRoot (storyId : String) (sessionId traceId : Option String) (metadata : Metadata)
  | openSpan (traceId : String) (plan : SpanPlan)
  | setOutput (spanId : String) (output : Json)
  | setError (spanId message : String)
  | link (traceId externalId system : String)
  | finalize (traceId : String) (content : Option String) (metrics : Option StoryMetrics)

def serve [Sink σ] (o : Orchestrator) : Request → Work StoryBoard σ Unit
  | .createRoot storyId sessionId traceId metadata =>
    discard (o.createRoot storyId sessionId traceId metadata)
  | .openSpan traceId plan => discard (openSpan traceId plan)
  | .setOutput spanId output => discard (setOutput spanId output)
  | .setError spanId message => discard (setError spanId message)
  | .link traceId externalId system => discard (link traceId externalId system)
  | .finalize traceId content metrics => discard (finalize traceId content metrics)

/-- The session after requests in the given order. -/
def serveAll [Sink σ] (o : Orchestrator) (requests : List Request)
    (s : Session StoryBoard (Watched σ)) : Session StoryBoard (Watched σ) :=
  requests.foldl (fun s q => (o.serve q s).2) s

/-- The session of an orchestrator that has no story yet. -/
def session (sink : σ) (supply : Supply) : Session StoryBoard (Watched σ) :=
  ⟨.empty, .start sink, supply⟩

/-- What a request answers. -/
inductive Response where
  | root (result : Except StoryError ActiveStory)
  | span (result : Except StoryError String)
  | done (result : Except StoryError Bool)
  | linked (found : Bool)
  | completed (result : Except StoryError CompletedStory)

def respond [Sink σ] (o : Orchestrator) : Request → Work StoryBoard σ Response
  | .createRoot storyId sessionId traceId metadata =>
    .root <$> o.createRoot storyId sessionId traceId metadata
  | .openSpan traceId plan => .span <$> openSpan traceId plan
  | .setOutput spanId output => .done <$> setOutput spanId output
  | .setError spanId message => .done <$> setError spanId message
  | .link traceId externalId system => .linked <$> link traceId externalId system
  | .finalize traceId content metrics => .completed <$> finalize traceId content metrics

theorem session_serve [Sink σ] (o : Orchestrator) (q : Request)
    (s : Session StoryBoard (Watched σ)) : (o.serve q s).2 = (o.respond q s).2 := by
  cases q <;> rfl

/-- The span that the request gives an output or an error. -/
def Request.revises? : Request → Option String
  | .setOutput spanId _ => some spanId
  | .setError spanId _ => some spanId
  | _ => none

/-- The new story has no spans, and names that were given or else generated. -/
structure RootOf (o : Orchestrator) (supply : Supply) (storyId : String)
    (sessionId traceId : Option String) (story : ActiveStory) : Prop where
  traceId : story.traceId = traceId.getD (supply.ids supply.idsUsed)
  storyId : story.storyId = storyId
  sessionId : story.sessionId =
    (sessionId.orElse fun _ => o.sessionId).getD (supply.ids (supply.idsUsed + 1))
  spanIds : story.spanIds = []

/-- What the span is and where it belongs is as it was. -/
structure Revises (changed known : StorySpan) : Prop where
  id : changed.id = known.id
  traceId : changed.traceId = known.traceId
  kind : changed.kind = known.kind

/-- All that a request can do, with its response. -/
inductive Served (o : Orchestrator) (s : Session StoryBoard (Watched σ)) :
    Request → Response → Session StoryBoard (Watched σ) → Prop where
  | rootCreated {storyId : String} {sessionId traceId : Option String} {metadata : Metadata}
      {story : ActiveStory} {t : Trace} {sink : σ} {supply : Supply}
      (isRoot : RootOf o s.supply storyId sessionId traceId story) (same : t.id = story.traceId)
      (uses : s.supply.Uses 2 supply) :
      Served o s (.createRoot storyId sessionId traceId metadata) (.root (.ok story))
        ⟨s.state.setStory story, s.sink.note sink [⟨.createTrace t, none⟩], supply⟩
  | rootRefused {storyId : String} {sessionId traceId : Option String} {metadata : Metadata}
      {t : Trace} {e : SinkError} {sink : σ} {supply : Supply} (uses : s.supply.Uses 2 supply) :
      Served o s (.createRoot storyId sessionId traceId metadata) (.root (.error (.sink e)))
        ⟨s.state, s.sink.note sink [⟨.createTrace t, some e⟩], supply⟩
  | openUnknown {traceId : String} {plan : SpanPlan}
      (unknown : s.state.active.get? traceId = none) :
      Served o s (.openSpan traceId plan) (.span (.error (.unknownTrace traceId))) s
  | spanOpened {traceId : String} {plan : SpanPlan} {story : ActiveStory}
      {started ended first last : Instant} {sink : σ} {supply : Supply}
      (known : s.state.active.get? traceId = some story) (uses : s.supply.Uses 1 supply) :
      Served o s (.openSpan traceId plan) (.span (.ok (s.supply.ids s.supply.idsUsed)))
        ⟨s.state.addSpan story
            (plan.storySpan story (s.supply.ids s.supply.idsUsed) first last) plan.visits,
          s.sink.note sink
            [⟨.createSpan (plan.span story (s.supply.ids s.supply.idsUsed) started ended), none⟩],
          supply⟩
  | spanRefused {traceId : String} {plan : SpanPlan} {record : Span} {e : SinkError} {sink : σ}
      {supply : Supply} (uses : s.supply.Uses 1 supply) :
      Served o s (.openSpan traceId plan) (.span (.error (.sink e)))
        ⟨s.state, s.sink.note sink [⟨.createSpan record, some e⟩], supply⟩
  | spanUnknown {q : Request} {id : String} (hRevises : q.revises? = some id)
      (unknown : s.state.spans.get? id = none) : Served o s q (.done (.ok false)) s
  | revised {q : Request} {id : String} {known changed : StorySpan} {supply : Supply}
      (hRevises : q.revises? = some id) (hKnown : s.state.spans.get? id = some known)
      (same : Revises changed known) (ended : known.endTime ≠ none)
      (ends : changed.endTime ≠ none) (uses : s.supply.Uses 0 supply) :
      Served o s q (.done (.ok true)) ⟨s.state.setSpan changed, s.sink, supply⟩
  | closed {q : Request} {known changed : StorySpan} {c : Closure}
      {result : Except StoryError Bool} {refusal : Option SinkError} {sink : σ} {supply : Supply}
      (hRevises : q.revises? = some c.spanId)
      (hKnown : s.state.spans.get? c.spanId = some known) (same : Revises changed known)
      (isOpen : known.endTime = none) (ends : changed.endTime ≠ none)
      (closes : c.status.isRunning = false)
      (hResult : result = refusal.elim (.ok true) fun e => .error (.sink e))
      (uses : s.supply.Uses 0 supply) :
      Served o s q (.done result)
        ⟨s.state.setSpan changed, s.sink.note sink [⟨.endSpan c, refusal⟩], supply⟩
  | linkUnknown {traceId externalId system : String}
      (unknown : s.state.active.get? traceId = none) :
      Served o s (.link traceId externalId system) (.linked false) s
  | linked {traceId externalId system : String} {story : ActiveStory}
      (known : s.state.active.get? traceId = some story) :
      Served o s (.link traceId externalId system) (.linked true)
        ⟨s.state.setStory
            { story with correlation := story.correlation.addChild externalId system },
          s.sink, s.supply⟩
  | finalizeUnknown {traceId : String} {content : Option String} {metrics : Option StoryMetrics}
      (unknown : s.state.active.get? traceId = none) :
      Served o s (.finalize traceId content metrics)
        (.completed (.error (.unknownTrace traceId))) s
  | finalizeRefused {traceId : String} {content : Option String} {metrics : Option StoryMetrics}
      {u : TraceUpdate} {e : SinkError} {sink : σ} {supply : Supply}
      (uses : s.supply.Uses 0 supply) :
      Served o s (.finalize traceId content metrics) (.completed (.error (.sink e)))
        ⟨s.state, s.sink.note sink [⟨.updateTrace u, some e⟩], supply⟩
  | finalized {traceId : String} {content : Option String} {metrics : Option StoryMetrics}
      {story : ActiveStory} {now : Instant} {output : Json} {sink : σ} {supply : Supply}
      (known : s.state.active.get? traceId = some story)
      (hOutput : output = outcome content (complete s.state story content metrics now).beatCount
        (complete s.state story content metrics now).durationMs metrics)
      (uses : s.supply.Uses 0 supply) :
      Served o s (.finalize traceId content metrics)
        (.completed (.ok (complete s.state story content metrics now)))
        ⟨s.state.remove story,
          s.sink.note sink [⟨.updateTrace ⟨traceId, some output, []⟩, none⟩], supply⟩

theorem id_span (p : SpanPlan) (a : ActiveStory) (id : String) (started ended : Instant) :
    (p.span a id started ended).id = id := by
  unfold SpanPlan.span
  cases p.output <;> rfl

theorem id_storySpan (p : SpanPlan) (a : ActiveStory) (id : String) (started ended : Instant) :
    (p.storySpan a id started ended).id = id := by
  unfold SpanPlan.storySpan
  cases p.output <;> rfl

section

open Work

variable [Sink σ] {s : Session StoryBoard (Watched σ)}

theorem served_createRoot (o : Orchestrator) (storyId : String)
    (sessionId traceId : Option String) (metadata : Metadata) :
    (o.createRoot storyId sessionId traceId metadata).Yields s fun answer t =>
      Served o s (.createRoot storyId sessionId traceId metadata) (.root answer) t := by
  refine .bind (yields_newId (.bind (yields_newId (.bind (yields_now (.bind (yields_now
    (.bind (yields_now (.bind (yields_send ?accepted ?refused)))))))))))
  case accepted =>
    intro sink
    exact .bind (yields_change (yields_pure (.rootCreated ⟨rfl, rfl, rfl, rfl⟩ rfl ⟨rfl, rfl⟩)))
  case refused =>
    intro e sink
    exact yields_pure (.rootRefused ⟨rfl, rfl⟩)

theorem served_openSpan (o : Orchestrator) (traceId : String) (p : SpanPlan) :
    (openSpan traceId p).Yields s fun answer t =>
      Served o s (.openSpan traceId p) (.span answer) t := by
  refine .bind (yields_state ?_)
  split
  case h_1 unknown => exact yields_pure (.openUnknown unknown)
  case h_2 story known =>
    refine .bind (yields_newId (.bind (yields_now (.bind (yields_now (.bind (yields_now
      (.bind (yields_now (.bind (yields_send ?accepted ?refused)))))))))))
    case accepted =>
      intro sink
      exact .bind (yields_change (yields_pure (.spanOpened known ⟨rfl, rfl⟩)))
    case refused =>
      intro e sink
      exact yields_pure (.spanRefused ⟨rfl, rfl⟩)

/-- Once a span is ended, its closure is offered to the sink whatever the sink answers. -/
theorem served_sendClosure (o : Orchestrator) {q : Request} {known : StorySpan} (ended : StorySpan)
    {c : Closure} (hRevises : q.revises? = some c.spanId)
    (hKnown : s.state.spans.get? c.spanId = some known) (same : Revises ended known)
    (isOpen : known.endTime = none) (ends : ended.endTime ≠ none)
    (closes : c.status.isRunning = false) {supply : Supply} (uses : s.supply.Uses 0 supply) :
    (sendClosure c).Yields ⟨s.state.setSpan ended, s.sink, supply⟩ fun answer t =>
      Served o s q (.done answer) t := by
  refine .bind (yields_send ?accepted ?refused)
  case accepted =>
    intro sink
    exact yields_pure (.closed hRevises hKnown same isOpen ends closes rfl uses)
  case refused =>
    intro e sink
    exact yields_pure (.closed hRevises hKnown same isOpen ends closes rfl uses)

theorem served_setOutput (o : Orchestrator) (spanId : String) (output : Json) :
    (setOutput spanId output).Yields s fun answer t =>
      Served o s (.setOutput spanId output) (.done answer) t := by
  refine .bind (yields_state ?_)
  split
  case h_1 unknown => exact yields_pure (.spanUnknown rfl unknown)
  case h_2 known hKnown =>
    extract_lets given
    have hSame : Revises given known ∧ given.endTime = known.endTime := by
      cases output <;> exact ⟨⟨rfl, rfl, rfl⟩, rfl⟩
    split
    case h_1 time hEnded =>
      have hEnds : known.endTime ≠ none := hEnded ▸ Option.some_ne_none time
      exact .bind (yields_change (yields_pure
        (.revised rfl hKnown hSame.1 hEnds (hSame.2 ▸ hEnds) ⟨rfl, rfl⟩)))
    case h_2 hOpen =>
      refine .bind (yields_now (.bind (yields_change (.bind (yields_now ?_)))))
      exact served_sendClosure o (given.finish _) rfl hKnown
        ⟨hSame.1.id, hSame.1.traceId, hSame.1.kind⟩ hOpen (Option.some_ne_none _) rfl ⟨rfl, rfl⟩

theorem served_setError (o : Orchestrator) (spanId message : String) :
    (setError spanId message).Yields s fun answer t =>
      Served o s (.setError spanId message) (.done answer) t := by
  refine .bind (yields_state ?_)
  split
  case h_1 unknown => exact yields_pure (.spanUnknown rfl unknown)
  case h_2 known hKnown =>
    have hSame (now : Instant) : Revises (known.fail message now) known := ⟨rfl, rfl, rfl⟩
    refine .bind (yields_now (.bind (yields_change ?_)))
    split
    case h_1 time hEnded =>
      exact yields_pure (.revised rfl hKnown (hSame _) (hEnded ▸ Option.some_ne_none time)
        (Option.some_ne_none _) ⟨rfl, rfl⟩)
    case h_2 hOpen =>
      refine .bind (yields_now ?_)
      exact served_sendClosure o (known.fail message _) rfl hKnown (hSame _) hOpen
        (Option.some_ne_none _) rfl ⟨rfl, rfl⟩

omit [Sink σ] in
theorem served_link (o : Orchestrator) (traceId externalId system : String) :
    (link traceId externalId system).Yields s fun answer t =>
      Served o s (.link traceId externalId system) (.linked answer) t := by
  refine .bind (yields_state ?_)
  split
  case h_1 unknown => exact yields_pure (.linkUnknown unknown)
  case h_2 story known => exact .bind (yields_change (yields_pure (.linked known)))

theorem served_finalize (o : Orchestrator) (traceId : String) (content : Option String)
    (metrics : Option StoryMetrics) :
    (finalize traceId content metrics).Yields s fun answer t =>
      Served o s (.finalize traceId content metrics) (.completed answer) t := by
  refine .bind (yields_state ?_)
  split
  case h_1 unknown => exact yields_pure (.finalizeUnknown unknown)
  case h_2 story known =>
    refine .bind (yields_now (.bind (yields_send ?accepted ?refused)))
    case accepted =>
      intro sink
      refine .bind (yields_put (.bind (.discard (yields_flush ?_))))
      intro answer later
      rw [Watched.note_note]
      exact yields_pure (.finalized known rfl ⟨rfl, rfl⟩)
    case refused =>
      intro e sink
      exact yields_pure (.finalizeRefused ⟨rfl, rfl⟩)

theorem served_respond (o : Orchestrator) (q : Request) (s : Session StoryBoard (Watched σ)) :
    Served o s q (o.respond q s).1 (o.respond q s).2 := by
  cases q with
  | createRoot storyId sessionId traceId metadata =>
      exact served_createRoot o storyId sessionId traceId metadata
  | openSpan traceId plan => exact served_openSpan o traceId plan
  | setOutput spanId output => exact served_setOutput o spanId output
  | setError spanId message => exact served_setError o spanId message
  | link traceId externalId system => exact served_link o traceId externalId system
  | finalize traceId content metrics => exact served_finalize o traceId content metrics

end

end Orchestrator

end StoryTrace
