import StoryTrace.Proofs.Story.Finalizing

/-!
# Failed calls

A call that cannot find its trace, or whose write the sink refuses, leaves the board and what the
sink has accepted as they were, so the same call succeeds once its trace is active and the sink
accepts its write. Only the flush that ends a story may fail without an error.
-/

namespace StoryTrace

/-- Every active story stands under its trace. -/
def StoryBoard.Named (b : StoryBoard) : Prop :=
  ∀ traceId story, b.active.get? traceId = some story → story.traceId = traceId

theorem StoryBoard.Named.put {b b' : StoryBoard} (h : b.Named) (story : ActiveStory)
    (hPut : b'.active = b.active.put story.traceId story) : b'.Named := by
  intro traceId other hOther
  rw [hPut, Table.get?_put] at hOther
  split at hOther
  case isTrue hHere =>
    obtain rfl := Option.some.inj hOther
    exact hHere
  case isFalse => exact h traceId other hOther

theorem StoryBoard.Named.addSpan {b : StoryBoard} (h : b.Named) (story : ActiveStory)
    (span : StorySpan) (visits : Option String) : (b.addSpan story span visits).Named :=
  h.put { story with spanIds := story.spanIds ++ [span.id], correlation := _ } rfl

theorem StoryBoard.Named.remove {b : StoryBoard} (h : b.Named) (story : ActiveStory) :
    (b.remove story).Named := by
  intro traceId other hOther
  rw [StoryBoard.remove, Table.get?_erase] at hOther
  split at hOther
  case isTrue => cases hOther
  case isFalse => exact h traceId other hOther

namespace Orchestrator

variable {σ : Type}

theorem Served.named {o : Orchestrator} {q : Request} {response : Response}
    {s s' : Session StoryBoard (Watched σ)} (hServed : Served o s q response s')
    (h : s.state.Named) : s'.state.Named := by
  cases hServed with
  | rootCreated _ _ _ => exact h.put _ rfl
  | @spanOpened _ plan story _ _ first last _ _ _ _ =>
      exact h.addSpan story (plan.storySpan story _ first last) plan.visits
  | linked _ => exact h.put _ rfl
  | @finalized _ _ _ story _ _ _ _ _ _ _ => exact h.remove story
  | _ => exact h

theorem named_of_dealAll [Sink σ] {o : Orchestrator} {sink : σ} {supply : Supply}
    {calls : List Call} {dealings : List Dealing} {s : Session StoryBoard (Watched σ)}
    (hRun : o.dealAll calls (session sink supply) = (dealings, s)) : s.state.Named := by
  have hAll := @dealAll_induction σ _ o (fun _ t => t.state.Named)
    (fun h hServed => hServed.named h) [] (session sink supply) nofun calls
  rwa [hRun] at hAll

/-- The failure that the response tells, if it tells one. -/
def Response.failure? : Response → Option StoryError
  | .root (.error e) | .span (.error e) | .done (.error e) | .completed (.error e) => some e
  | _ => none

namespace Request

/-- The trace that has to be active for the request. -/
def trace? : Request → Option String
  | .openSpan traceId _ => some traceId
  | .finalize traceId _ _ => some traceId
  | _ => none

/-- The call of the sink that the request depends on. -/
def sinkCall? : Request → Option SinkCall
  | .createRoot .. => some .createTrace
  | .openSpan .. => some .createSpan
  | .setOutput .. => some .endSpan
  | .setError .. => some .endSpan
  | .link .. => none
  | .finalize .. => some .updateTrace

end Request

variable [Sink σ]

/-- How a request ends: its trace is unknown, its write is refused, or it does not fail. -/
inductive Attempted (s : Session StoryBoard (Watched σ)) (q : Request) :
    Response → Session StoryBoard (Watched σ) → Prop where
  | unknown {response : Response} {traceId : String}
      (hFailure : response.failure? = some (.unknownTrace traceId))
      (hTrace : q.trace? = some traceId) (absent : s.state.active.get? traceId = none) :
      Attempted s q response s
  | refused {response : Response} {w : Write} {e : SinkError} {supply : Supply}
      (hFailure : response.failure? = some (.sink e)) (hCall : q.sinkCall? = some (.ofWrite w))
      (hSend : (Sink.send w s.sink.sink).1 = .error e)
      (known : ∀ traceId, q.trace? = some traceId → s.state.active.get? traceId ≠ none) :
      Attempted s q response
        ⟨s.state, s.sink.note (Sink.send w s.sink.sink).2 [⟨w, some e⟩], supply⟩
  | answered {response : Response} {s' : Session StoryBoard (Watched σ)}
      (hFailure : response.failure? = none) : Attempted s q response s'

section

open Work

variable {s : Session StoryBoard (Watched σ)}

theorem attempted_createRoot (o : Orchestrator) (storyId : String)
    (sessionId traceId : Option String) (metadata : Metadata) :
    (o.createRoot storyId sessionId traceId metadata).Yields s fun answer t =>
      Attempted s (.createRoot storyId sessionId traceId metadata) (.root answer) t := by
  refine .bind (yields_newId (.bind (yields_newId (.bind (yields_now (.bind (yields_now
    (.bind (yields_now (.bind (yields_send_answered ?accepted ?refused)))))))))))
  case accepted => exact fun _ => .bind (yields_change (yields_pure (.answered rfl)))
  case refused => exact fun e hSend => yields_pure (.refused rfl rfl hSend nofun)

theorem attempted_openSpan (traceId : String) (plan : SpanPlan) :
    (openSpan traceId plan).Yields s fun answer t =>
      Attempted s (.openSpan traceId plan) (.span answer) t := by
  refine .bind (yields_state ?_)
  split
  case h_1 absent => exact yields_pure (.unknown rfl rfl absent)
  case h_2 story known =>
    refine .bind (yields_newId (.bind (yields_now (.bind (yields_now (.bind (yields_now
      (.bind (yields_now (.bind (yields_send_answered ?accepted ?refused)))))))))))
    case accepted => exact fun _ => .bind (yields_change (yields_pure (.answered rfl)))
    case refused =>
      intro e hSend
      refine yields_pure (.refused rfl rfl hSend ?_)
      rintro _ ⟨⟩
      exact known ▸ Option.some_ne_none story

theorem attempted_finalize (traceId : String) (content : Option String)
    (metrics : Option StoryMetrics) :
    (finalize traceId content metrics).Yields s fun answer t =>
      Attempted s (.finalize traceId content metrics) (.completed answer) t := by
  refine .bind (yields_state ?_)
  split
  case h_1 absent => exact yields_pure (.unknown rfl rfl absent)
  case h_2 story known =>
    refine .bind (yields_now (.bind (yields_send_answered ?accepted ?refused)))
    case accepted =>
      exact fun _ => .bind (yields_put (.bind (.discard (yields_flush fun _ _ =>
        yields_pure (.answered rfl)))))
    case refused =>
      intro e hSend
      refine yields_pure (.refused rfl rfl hSend ?_)
      rintro _ ⟨⟩
      exact known ▸ Option.some_ne_none story

/-- Only a request that gives a span its output or its error can fail in another way. -/
theorem attempted_respond (o : Orchestrator) {q : Request} (hNew : q.revises? = none)
    (s : Session StoryBoard (Watched σ)) : Attempted s q (o.respond q s).1 (o.respond q s).2 := by
  cases q with
  | createRoot storyId sessionId traceId metadata =>
      exact attempted_createRoot o storyId sessionId traceId metadata
  | openSpan traceId plan => exact attempted_openSpan traceId plan
  | setOutput spanId output => cases hNew
  | setError spanId message => cases hNew
  | link traceId externalId system => exact .answered rfl
  | finalize traceId content metrics => exact attempted_finalize traceId content metrics

end

/-- A request whose trace is active and whose write is accepted does not fail. -/
theorem Attempted.failure?_eq_none {s s' : Session StoryBoard (Watched σ)} {q : Request}
    {response : Response} (h : Attempted s q response s')
    (known : ∀ traceId, q.trace? = some traceId → s.state.active.get? traceId ≠ none)
    (accepts : ∀ w, q.sinkCall? = some (.ofWrite w) → (Sink.send w s.sink.sink).1 = .ok ()) :
    response.failure? = none := by
  cases h with
  | unknown _ hTrace absent => exact absurd absent (known _ hTrace)
  | refused _ hCall hSend _ =>
      rw [accepts _ hCall] at hSend
      cases hSend
  | answered hFailure => exact hFailure

/-- The board is as it was, and so is what the sink holds: what it has accepted, and whatever else
of it is not touched by a write that it refuses. -/
structure Unchanged (s s' : Session StoryBoard (Watched σ)) : Prop where
  board : s'.state = s.state
  accepted : s'.sink.accepted = s.sink.accepted
  contents : ∀ {γ : Type} (contents : σ → γ), (∀ w sink e, (Sink.send w sink).1 = .error e →
    contents (Sink.send w sink).2 = contents sink) → contents s'.sink.sink = contents s.sink.sink

theorem Attempted.unchanged {s s' : Session StoryBoard (Watched σ)} {q : Request}
    {response : Response} {e : StoryError} (h : Attempted s q response s')
    (hFails : response.failure? = some e) : Unchanged s s' := by
  cases h with
  | unknown _ _ _ => exact ⟨rfl, rfl, fun _ _ => rfl⟩
  | refused _ _ hSend _ =>
      exact ⟨rfl, Watched.accepted_note_refused .., fun _ hKeeps => hKeeps _ _ _ hSend⟩
  | answered hFailure =>
      rw [hFailure] at hFails
      cases hFails

/-- The write that ends a story. -/
def finalUpdate (traceId : String) (c : CompletedStory) : Write :=
  .updateTrace ⟨traceId, some (outcome c.content c.beatCount c.durationMs c.metrics), []⟩

/-- A story whose last write is accepted is completed and forgotten, whatever the flush answers. -/
theorem finalize_of_accepts {s : Session StoryBoard σ} {traceId : String} {story : ActiveStory}
    (known : s.state.active.get? traceId = some story) {content : Option String}
    {metrics : Option StoryMetrics} {c : CompletedStory}
    (hComplete : c = complete s.state story content metrics s.supply.takeTime.1)
    (accepts : (Sink.send (finalUpdate traceId c) s.sink).1 = .ok ()) :
    finalize traceId content metrics s = (.ok c,
      ⟨s.state.remove story, (Sink.flush (Sink.send (finalUpdate traceId c) s.sink).2).2,
        s.supply.takeTime.2⟩) := by
  subst hComplete
  simp only [finalUpdate, complete] at accepts
  simp only [finalize, Work.run_bind, Work.run_state, known, Work.run_now, Work.run_send, complete,
    accepts]
  rfl

/-- A call that begins a story, opens a span or finalizes a story and fails leaves the board and
what the sink holds as they were: its trace is unknown, or its write is refused, and then the same
call does not fail again as soon as its write is accepted. A flush that is refused is no failure:
the story is completed and forgotten all the same. -/
theorem failed_call_changes_nothing (o : Orchestrator) (sink : σ) (supply : Supply)
    {calls : List Call} {dealings : List Dealing} {s : Session StoryBoard (Watched σ)}
    (hRun : o.dealAll calls (session sink supply) = (dealings, s)) :
    (∀ (c : Call) (response : Response) (s' : Session StoryBoard (Watched σ)) (e : StoryError),
      c.request.revises? = none → o.respond c.request s = (response, s') →
        response.failure? = some e → Unchanged s s' ∧
          ((∃ traceId, e = .unknownTrace traceId ∧ c.request.trace? = some traceId ∧
              s.state.active.get? traceId = none) ∨
            ∃ w refusal, e = .sink refusal ∧ c.request.sinkCall? = some (.ofWrite w) ∧
              (Sink.send w s.sink.sink).1 = .error refusal ∧
              ∀ again : Session StoryBoard (Watched σ), again.state = s'.state →
                (∀ w, c.request.sinkCall? = some (.ofWrite w) →
                  (Sink.send w again.sink.sink).1 = .ok ()) →
                (o.respond c.request again).1.failure? = none)) ∧
    ∀ traceId story content metrics completed, s.state.active.get? traceId = some story →
      completed = complete s.state story content metrics s.supply.takeTime.1 →
      (Sink.send (finalUpdate traceId completed) s.sink).1 = .ok () →
        ∃ s', finalize traceId content metrics s = (.ok completed, s') ∧
          s'.sink = (Sink.flush (Sink.send (finalUpdate traceId completed) s.sink).2).2 ∧
          UnknownTrace s' traceId ∧ ∀ id ∈ story.spanIds, UnknownSpan s' id := by
  refine ⟨fun c response s' e hNew hRespond hFails => ?failed, ?finalized⟩
  case failed =>
    have hAttempted := attempted_respond o hNew s
    rw [hRespond] at hAttempted
    refine ⟨hAttempted.unchanged hFails, ?_⟩
    cases hAttempted with
    | unknown hFailure hTrace absent =>
        exact .inl ⟨_, Option.some.inj (hFails.symm.trans hFailure), hTrace, absent⟩
    | refused hFailure hCall hSend known =>
        refine .inr ⟨_, _, Option.some.inj (hFails.symm.trans hFailure), hCall, hSend, ?_⟩
        intro again hSame accepts
        refine (attempted_respond o hNew again).failure?_eq_none ?_ accepts
        rw [hSame]
        exact known
    | answered hFailure =>
        rw [hFailure] at hFails
        cases hFails
  case finalized =>
    intro traceId story content metrics completed known hComplete accepts
    have hNamed : story.traceId = traceId := named_of_dealAll hRun traceId story known
    refine ⟨_, finalize_of_accepts known hComplete accepts, rfl, unknownTrace_of_absent ?trace,
      fun id hId => unknownSpan_of_absent ?span⟩
    case trace => rw [StoryBoard.remove, hNamed, Table.get?_erase, if_pos rfl]
    case span => rw [StoryBoard.remove, Table.get?_foldl_erase, if_pos hId]

/-- A story over a store that refuses its first outcome and its first flush. -/
def hinderedStory (later : List Call) : List Dealing × Session StoryBoard (Watched Gate) :=
  dealAll ⟨none, "story"⟩
    ([.createRoot "dusk" none (some "t1") [],
      .openSpan "t1" (.analysis "emotional" none none none)] ++ later)
    (session ((Gate.start.refuse .updateTrace 1).refuse .flush 1) (.counting ⟨0, 0⟩))

theorem failed_call_changes_nothing_hinderedStory :
    (∃ s', finalize "t1" none none (hinderedStory []).2 =
        (.error (.sink (Gate.refused .updateTrace)), s') ∧
      Unchanged (hinderedStory []).2 s' ∧
      s'.sink.sink.store = (hinderedStory []).2.sink.sink.store) ∧
    ∃ completed s', finalize "t1" none none (hinderedStory [.finalize "t1" none none]).2 =
        (.ok completed, s') ∧
      (Sink.flush (Sink.send (finalUpdate "t1" completed)
        (hinderedStory [.finalize "t1" none none]).2.sink).2).1 =
          .error (Gate.refused .flush) ∧
      UnknownTrace s' "t1" ∧ UnknownSpan s' "ii" := by
  constructor
  case left =>
    have hFails : (finalize "t1" none none (hinderedStory []).2).1.map (·.traceId) =
        .error (.sink (Gate.refused .updateTrace)) := by
      decide +kernel
    cases hFinal : finalize "t1" none none (hinderedStory []).2 with
    | mk answer s' =>
        rw [hFinal] at hFails
        cases answer with
        | ok c => cases hFails
        | error e =>
            obtain rfl := Except.error.inj hFails
            obtain ⟨hFailed, -⟩ := failed_call_changes_nothing ⟨none, "story"⟩ _ _
              (Prod.eta (hinderedStory [])).symm
            obtain ⟨hSame, -⟩ := hFailed (.finalize "t1" none none) _ s' _ rfl
              (by rw [Call.request, respond, Work.run_map, hFinal]) rfl
            exact ⟨s', rfl, hSame, hSame.contents Gate.store fun _ _ _ => Gate.store_pass_of_error⟩
  case right =>
    obtain ⟨-, hFinalized⟩ := failed_call_changes_nothing ⟨none, "story"⟩ _ _
      (Prod.eta (hinderedStory [.finalize "t1" none none])).symm
    have hSpans : ((hinderedStory [.finalize "t1" none none]).2.state.active.get? "t1").map
        (·.spanIds) = some ["ii"] := by
      decide +kernel
    obtain ⟨story, known, hIds⟩ := Option.map_eq_some_iff.1 hSpans
    have hAccepts : (hinderedStory [.finalize "t1" none none]).2.sink.sink.refusals
        .updateTrace = 0 := by
      decide +kernel
    have hRefuses : (hinderedStory [.finalize "t1" none none]).2.sink.sink.refusals .flush = 1 := by
      decide +kernel
    generalize (hinderedStory [.finalize "t1" none none]).2 = s at *
    obtain ⟨s', hFinal, -, hTrace, hUnknown⟩ := hFinalized "t1" story none none _ known rfl
      (congrArg Prod.fst (Gate.pass_of_refusals_eq_zero hAccepts))
    refine ⟨_, s', hFinal, ?flush, hTrace, hUnknown "ii" (hIds ▸ List.mem_singleton_self _)⟩
    have hSent : (Sink.send (finalUpdate "t1" (complete s.state story none none
        s.supply.takeTime.1)) s.sink).2.sink.refusals .flush = 1 :=
      (congrArg (·.2.refusals .flush) (Gate.pass_of_refusals_eq_zero hAccepts)).trans hRefuses
    exact congrArg Prod.fst (Gate.pass_of_refusals_eq_succ hSent)

end Orchestrator

end StoryTrace
