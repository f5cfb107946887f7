import StoryTrace.Proofs.Sink.Watched
import StoryTrace.Story.Narrator

/-!
# How the steps of a narrator come out

Every way in which a step can go, with the whole session after it. What is recorded is recorded in
the root trace and under the story id that the narrator has by then. A story is opened only after
its root trace and its start were accepted, and its end is recorded whatever the sink answers.
-/

namespace StoryTrace

/-- The span is that of the event, in the given trace. -/
def Span.Tells (s : Span) (e : StoryEvent) (traceId : String) : Prop :=
  ∃ storyId id started ended, s = Narrator.spanOf e storyId id traceId started ended

namespace Narrator

variable {σ : Type}

/-- The root trace is there already, or it is offered to the sink. -/
inductive Ensured (n : Narrator) (s : Session Narration (Watched σ)) :
    Except SinkError String → Session Narration (Watched σ) → Prop
  | there {c : Correlation} (known : s.state.correlation = some c) :
      Ensured n s (.ok c.rootTraceId) s
  | created {id createdAt : String} {created now : Instant} {sink : σ} {supply : Supply}
      (unknown : s.state.correlation = none)
      (given : ∀ configured, n.traceId = some configured → id = configured) :
      Ensured n s (.ok id)
        ⟨{ s.state with
            correlation := some (.start id s.state.storyId (n.sessionId.getD "") localSystem now) },
          s.sink.note sink
            [⟨.createTrace (rootTrace id s.state.storyId n.sessionId created createdAt), none⟩],
          supply⟩
  | refused {root : Trace} {e : SinkError} {sink : σ} {supply : Supply}
      (unknown : s.state.correlation = none) :
      Ensured n s (.error e)
        ⟨s.state, s.sink.note sink [⟨.createTrace root, some e⟩], supply⟩

theorem Ensured.exists_correlation {n : Narrator} {s t : Session Narration (Watched σ)}
    {root : String} (h : Ensured n s (.ok root) t) :
    ∃ c, t.state.correlation = some c ∧ c.rootTraceId = root := by
  cases h with
  | there known => exact ⟨_, known, rfl⟩
  | created => exact ⟨_, rfl, rfl⟩

/-- The span of an event is offered to the sink once the root trace is there. -/
inductive Recorded (n : Narrator) (s : Session Narration (Watched σ)) (e : StoryEvent) :
    Except SinkError String → Session Narration (Watched σ) → Prop
  | unrooted {error : SinkError} {t : Session Narration (Watched σ)}
      (ensured : Ensured n s (.error error) t) : Recorded n s e (.error error) t
  | accepted {root id : String} {started ended : Instant} {t : Session Narration (Watched σ)}
      {sink : σ} {supply : Supply} (ensured : Ensured n s (.ok root) t) :
      Recorded n s e (.ok id)
        ⟨t.state,
          t.sink.note sink [⟨.createSpan (spanOf e t.state.storyId id root started ended), none⟩],
          supply⟩
  | refused {root id : String} {started ended : Instant} {error : SinkError}
      {t : Session Narration (Watched σ)} {sink : σ} {supply : Supply}
      (ensured : Ensured n s (.ok root) t) :
      Recorded n s e (.error error)
        ⟨t.state, t.sink.note sink
          [⟨.createSpan (spanOf e t.state.storyId id root started ended), some error⟩], supply⟩

/-- The session with the story named anew, if a name is given. -/
def rename (storyId : Option String) (s : Session Narration (Watched σ)) (supply : Supply) :
    Session Narration (Watched σ) :=
  ⟨{ s.state with storyId := storyId.getD s.state.storyId }, s.sink, supply⟩

/-- A story is opened under the name that it is given, and its time begins before anything else. -/
inductive Opened (n : Narrator) (s : Session Narration (Watched σ)) (storyId : Option String) :
    Except SinkError Opening → Session Narration (Watched σ) → Prop
  | unrooted {supply : Supply} {e : SinkError} {t : Session Narration (Watched σ)}
      (ensured : Ensured n (rename storyId s supply) (.error e) t) :
      Opened n s storyId (.error e) t
  | unstarted {supply : Supply} {root : String} {e : SinkError}
      {t u : Session Narration (Watched σ)}
      (ensured : Ensured n (rename storyId s supply) (.ok root) t)
      (started : Recorded n t (startEvent t.state.storyId) (.error e) u) :
      Opened n s storyId (.error e) u
  | opened {supply : Supply} {root spanId : String} {t u : Session Narration (Watched σ)}
      (ensured : Ensured n (rename storyId s supply) (.ok root) t)
      (started : Recorded n t (startEvent t.state.storyId) (.ok spanId) u) :
      Opened n s storyId (.ok ⟨root, t.state.storyId, spanId, s.supply.takeLap.1⟩) u

/-- The end of a story and its metrics are recorded after its time was taken. -/
structure Closed (n : Narrator) (s : Session Narration (Watched σ)) (o : Opening)
    (metrics : StoryMetrics) (t : Session Narration (Watched σ)) : Prop where
  timed : metrics = s.state.metrics.withTotal (elapsedMillis o.began s.supply.takeLap.1)
  ended : ∃ supply answer answer' u,
    Recorded n ⟨{ s.state with metrics }, s.sink, supply⟩ (endEvent o.storyId metrics o.spanId)
      answer u ∧
    Recorded n u (metricsEvent metrics) answer' t

section

open Work

variable [Sink σ] {n : Narrator} {s : Session Narration (Watched σ)}

theorem ensured_ensureRoot (n : Narrator) : n.ensureRoot.Yields s (Ensured n s) := by
  refine .bind (yields_state ?_)
  split
  case h_1 c known => exact yields_pure (.there known)
  case h_2 unknown =>
    refine .bind (yields_state (.bind (yields_newId (.bind (yields_now (.bind (yields_now
      (.bind (yields_send ?accepted ?refused)))))))))
    case accepted =>
      intro sink
      have hGiven (fresh : String) : ∀ id, n.traceId = some id → n.traceId.getD fresh = id :=
        fun id hId => by rw [hId, Option.getD_some]
      exact .bind (yields_now (.bind (yields_put (yields_pure (.created unknown (hGiven _))))))
    case refused => exact fun e sink => yields_pure (.refused unknown)

theorem recorded_record (n : Narrator) (e : StoryEvent) :
    (n.record e).Yields s (Recorded n s e) := by
  refine .bind ((ensured_ensureRoot n).mono ?_)
  rintro answer ⟨known, watched, supply⟩ hEnsured
  cases answer with
  | error error => exact yields_pure (.unrooted hEnsured)
  | ok root =>
      refine .bind (yields_newId (.bind (yields_now (.bind (yields_state (.bind (yields_now
        (.bind (yields_send ?accepted ?refused)))))))))
      case accepted => exact fun sink => yields_pure (.accepted hEnsured)
      case refused => exact fun error sink => yields_pure (.refused hEnsured)

/-- Headers carry the name that the story has by then. -/
theorem ensured_headers (n : Narrator) :
    n.headers.Yields s fun answer t => (∃ root, Ensured n s root t) ∧
      ∀ h, answer = .ok h → h.get? Headers.storyHeader = some t.state.storyId := by
  refine .bind ((ensured_ensureRoot n).mono ?_)
  intro root t hEnsured
  cases root with
  | error e => exact yields_pure ⟨⟨_, hEnsured⟩, nofun⟩
  | ok id =>
      refine .bind (yields_state (yields_pure ⟨⟨_, hEnsured⟩, ?_⟩))
      rintro _ ⟨⟩
      simp [Table.ofList, Table.merge, Headers.storyHeader, Headers.sessionHeader]

theorem opened_openStory (n : Narrator) (storyId : Option String) :
    (n.openStory storyId).Yields s (Opened n s storyId) := by
  refine .bind (yields_change (.bind (yields_lap (.bind ((ensured_ensureRoot n).mono ?_)))))
  rintro answer t (hEnsured : Ensured n (rename storyId s _) answer t)
  cases answer with
  | error e => exact yields_pure (.unrooted hEnsured)
  | ok root =>
      refine .bind (yields_state (.bind ((recorded_record n _).mono fun started u hStarted => ?_)))
      cases started with
      | error e => exact yields_pure (.unstarted hEnsured hStarted)
      | ok spanId => exact yields_pure (.opened hEnsured hStarted)

theorem closed_closeStory (n : Narrator) (o : Opening) :
    (n.closeStory o).Yields s fun _ t => ∃ metrics, Closed n s o metrics t := by
  refine .bind (yields_lap (.bind (yields_change (.bind (yields_state (.bind
    (.discard ((recorded_record n _).mono fun answer t hEnd => ?_))))))))
  refine .discard ((recorded_record n _).mono fun answer' u hMetrics => ?_)
  exact ⟨_, rfl, _, _, _, _, hEnd, hMetrics⟩

end

end Narrator

end StoryTrace
