import StoryTrace.Proofs.Run.Map
import StoryTrace.Proofs.Session
import StoryTrace.Proofs.Sink.Watched
import StoryTrace.Run.Recorder

/-!
# Exchanges with a recorder

An exchange is a notice with the answer to it and the writes that were handed over for it. A
recorder with a settled run map has seven ways to answer, and a refusal never changes the map.
-/

namespace StoryTrace

/-- What a recorder answers to a notice. -/
inductive Answer where
  | started (result : Except SinkError StartedRun)
  | finished (result : Except SinkError Bool)

namespace Answer

/-- Whether something was written. -/
def written : Answer → Except SinkError Bool
  | .started result => result.map (!·.repeated)
  | .finished result => result

end Answer

structure Exchange where
  notice : Notice
  answer : Answer
  handovers : List Handover

/-- The run that a notice ends, and the closure of its span. -/
def Notice.ending? : Notice → Option (RunId × (ClosedRun → Instant → Closure))
  | .started _ => none
  | .ended run output => some (run, fun c now =>
      (Closure.succeeded c.spanId c.traceId (some output.payload) now).withUsage output.usage?)
  | .failed run error =>
    some (run, fun c now => Closure.failed c.spanId c.traceId error.message error.kind now)

namespace Recorder

variable {σ : Type}

def answer [Sink σ] (r : Recorder) : Notice → Work RunMap σ Answer
  | .started s => .started <$> r.start s
  | .ended run output => .finished <$> stop run output
  | .failed run error => .finished <$> fail run error

theorem receive_eq_written_answer [Sink σ] (r : Recorder) (n : Notice) :
    (r.receive n : Work RunMap σ _) = Answer.written <$> r.answer n := by
  cases n <;> rfl

theorem answer_of_ending [Sink σ] (r : Recorder) {n : Notice} {run : RunId}
    {closure : ClosedRun → Instant → Closure} (h : n.ending? = some (run, closure)) :
    (r.answer n : Work RunMap σ _) = .finished <$> finish run closure := by
  cases n with
  | started _ => cases h
  | ended run output => cases h; rfl
  | failed run error => cases h; rfl

/-- Answers a notice, and notes what was handed over for it. -/
def attend [Sink σ] (r : Recorder) (n : Notice) : Work RunMap (Watched σ) Exchange := fun s =>
  let (answer, after) := r.answer n s
  (⟨n, answer, after.sink.handovers.drop s.sink.handovers.length⟩, after)

/-- The exchanges for notices in the given order. -/
def attendAll [Sink σ] (r : Recorder) (notices : List Notice) :
    Work RunMap (Watched σ) (List Exchange) := notices.mapM r.attend

/-- The session of a recorder that has not met a run yet. -/
def session (sink : σ) (supply : Supply) : Session RunMap (Watched σ) :=
  ⟨.empty, .start sink, supply⟩

/-- The trace of a run that starts for the first time: that of its parent, if the parent has one,
and otherwise the one of the policy. -/
def traceIdFor (r : Recorder) (s : Session RunMap σ) (x : RunStart) : String :=
  (x.parent.bind s.state.traceId?).getD (r.policy.join s.supply.takeId.1)

/-- The span of a run that starts for the first time. -/
def spanFor (r : Recorder) (s : Session RunMap σ) (x : RunStart) (now : Instant) : Span :=
  spanOf x s.supply.takeId.2.takeId.1 (r.traceIdFor s x) (x.parent.bind s.state.spanId?) now

/-- The accepted creation of the trace of a run, unless the trace was met before. -/
def traceCreation (r : Recorder) (s : Session RunMap σ) (x : RunStart) (now : Instant) :
    List Handover :=
  if s.state.traces.contains (r.traceIdFor s x) then []
  else [⟨.createTrace (r.traceOf (r.traceIdFor s x) now), none⟩]

/-- How an exchange takes one session to the next. -/
inductive Step [Sink σ] (r : Recorder) (s : Session RunMap (Watched σ)) :
    Exchange → Session RunMap (Watched σ) → Prop where
  | again {x : RunStart} {id : String} (known : s.state.spanId? x.run = some id) :
      Step r s ⟨.started x,
        .started (.ok ⟨(s.state.traceId? x.run).getD "", id, false, true⟩), []⟩ s
  | traceRefused {x : RunStart} {e : SinkError} {now : Instant} {sink : σ} {supply : Supply}
      (unknown : s.state.find? x.run = none)
      (new : s.state.traces.contains (r.traceIdFor s x) = false)
      (uses : s.supply.Uses 1 supply) :
      Step r s ⟨.started x, .started (.error e),
          [⟨.createTrace (r.traceOf (r.traceIdFor s x) now), some e⟩]⟩
        ⟨s.state, s.sink.note sink
          [⟨.createTrace (r.traceOf (r.traceIdFor s x) now), some e⟩], supply⟩
  | spanRefused {x : RunStart} {e : SinkError} {now later : Instant} {sink : σ} {supply : Supply}
      (unknown : s.state.find? x.run = none) (uses : s.supply.Uses 2 supply) :
      Step r s ⟨.started x, .started (.error e),
          r.traceCreation s x now ++ [⟨.createSpan (r.spanFor s x later), some e⟩]⟩
        ⟨s.state, s.sink.note sink
          (r.traceCreation s x now ++ [⟨.createSpan (r.spanFor s x later), some e⟩]), supply⟩
  | opened {x : RunStart} {now later : Instant} {sink : σ} {supply : Supply}
      (unknown : s.state.find? x.run = none) (uses : s.supply.Uses 2 supply) :
      Step r s ⟨.started x,
          .started (.ok ⟨r.traceIdFor s x, (r.spanFor s x later).id,
            !s.state.traces.contains (r.traceIdFor s x), false⟩),
          r.traceCreation s x now ++ [⟨.createSpan (r.spanFor s x later), none⟩]⟩
        ⟨s.state.enroll x.run (r.traceIdFor s x) (r.spanFor s x later).id x.kind.spanType,
          s.sink.note sink
            (r.traceCreation s x now ++ [⟨.createSpan (r.spanFor s x later), none⟩]), supply⟩
  | idle {n : Notice} {run : RunId} {closure : ClosedRun → Instant → Closure}
      (ends : n.ending? = some (run, closure)) (shut : s.state.isOpen run = false) :
      Step r s ⟨n, .finished (.ok false), []⟩ s
  | closeRefused {n : Notice} {run : RunId} {closure : ClosedRun → Instant → Closure}
      {taken : ClosedRun} {e : SinkError} {now : Instant} {sink : σ} {supply : Supply}
      (ends : n.ending? = some (run, closure))
      (known : s.state.find? run = some ⟨taken.traceId, some ⟨taken.spanId, taken.type, true⟩⟩)
      (sent : Sink.send (.endSpan ((closure taken now).withType taken.type)) s.sink.sink =
        (.error e, sink))
      (uses : s.supply.Uses 0 supply) :
      Step r s ⟨n, .finished (.error e),
          [⟨.endSpan ((closure taken now).withType taken.type), some e⟩]⟩
        ⟨s.state, s.sink.note sink
          [⟨.endSpan ((closure taken now).withType taken.type), some e⟩], supply⟩
  | closed {n : Notice} {run : RunId} {closure : ClosedRun → Instant → Closure}
      {taken : ClosedRun} {now : Instant} {sink : σ} {supply : Supply}
      (ends : n.ending? = some (run, closure))
      (known : s.state.find? run = some ⟨taken.traceId, some ⟨taken.spanId, taken.type, true⟩⟩)
      (sent : Sink.send (.endSpan ((closure taken now).withType taken.type)) s.sink.sink =
        (.ok (), sink))
      (uses : s.supply.Uses 0 supply) :
      Step r s ⟨n, .finished (.ok true),
          [⟨.endSpan ((closure taken now).withType taken.type), none⟩]⟩
        ⟨s.state.setOpen run false, s.sink.note sink
          [⟨.endSpan ((closure taken now).withType taken.type), none⟩], supply⟩

section

variable [Sink σ] {r : Recorder} {s : Session RunMap (Watched σ)}

theorem attend_eq {n : Notice} {answer : Answer} {after : Session RunMap (Watched σ)}
    {handovers : List Handover} (h : r.answer n s = (answer, after))
    (hNoted : after.sink.handovers = s.sink.handovers ++ handovers) :
    r.attend n s = (⟨n, answer, handovers⟩, after) := by
  simp [attend, h, hNoted]

/-! ## Ends -/

theorem step_finish (hSettled : s.state.Settled) {n : Notice} {run : RunId}
    {closure : ClosedRun → Instant → Closure} (ends : n.ending? = some (run, closure)) :
    Step r s (r.attend n s).1 (r.attend n s).2 := by
  have hAnswer := congrFun (answer_of_ending (σ := Watched σ) r ends) s
  rw [Work.run_map] at hAnswer
  cases hClose : s.state.close run with
  | none =>
      have hRun : finish run closure s = (.ok false, s) := by
        simp only [finish, Work.run_bind, Work.run_state, hClose, Work.run_pure]
      rw [hRun] at hAnswer
      rw [attend_eq hAnswer (List.append_nil _).symm]
      exact .idle ends (RunMap.close_eq_none_iff.1 hClose)
  | some closed =>
      obtain ⟨traceId, spanId, type, hFind, rfl⟩ := RunMap.close_eq_some_iff.1 hClose
      let taken : ClosedRun := ⟨traceId, spanId, type⟩
      let w : Write := .endSpan ((closure taken s.supply.takeTime.1).withType type)
      have hUses : s.supply.Uses 0 s.supply.takeTime.2 := ⟨rfl, rfl⟩
      rcases hSend : Sink.send w s.sink.sink with ⟨e | _, sink⟩
      · have hRun : finish run closure s =
            (.error e, ⟨s.state, s.sink.note sink [⟨w, some e⟩], s.supply.takeTime.2⟩) := by
          simp only [finish, Work.run_bind, Work.run_state, hClose, Work.run_now,
            Work.run_send_watched hSend, Work.run_put, Work.run_pure, Handover.ofAnswer,
            RunMap.reopen_setOpen hSettled hFind, w, taken]
        rw [hRun] at hAnswer
        rw [attend_eq hAnswer rfl]
        exact .closeRefused ends hFind hSend hUses
      · have hRun : finish run closure s =
            (.ok true, ⟨s.state.setOpen run false, s.sink.note sink [⟨w, none⟩],
              s.supply.takeTime.2⟩) := by
          simp only [finish, Work.run_bind, Work.run_state, hClose, Work.run_now,
            Work.run_send_watched hSend, Work.run_put, Work.run_pure, Handover.ofAnswer, w, taken]
        rw [hRun] at hAnswer
        rw [attend_eq hAnswer rfl]
        exact .closed ends hFind hSend hUses

/-! ## Starts -/

section Unknown

variable {x : RunStart} (unknown : s.state.find? x.run = none)
include unknown

omit [Sink σ] in
theorem resolution_of_unknown :
    (s.state.resolve x.run x.parent (r.policy.join s.supply.takeId.1)).1 =
      ⟨r.traceIdFor s x, !s.state.traces.contains (r.traceIdFor s x)⟩ := by
  rw [RunMap.resolve_of_unknown unknown]
  rfl

theorem answer_of_unknown :
    r.answer (.started x) s = (.started (r.begin x s).1, (r.begin x s).2) := by
  have hSpan : s.state.spanId? x.run = none := by
    simp [RunMap.spanId?, RunMap.span?, unknown]
  simp only [answer, start, Work.run_map, Work.run_bind, Work.run_state, hSpan]

/-- A start whose trace is there comes down to what becomes of its span. -/
theorem step_begin_of_trace (now : Instant) (sink : σ) (supply : Supply)
    (hTrace : r.createTrace ⟨r.traceIdFor s x, !s.state.traces.contains (r.traceIdFor s x)⟩
        ⟨s.state, s.sink, s.supply.takeId.2⟩ =
      (.ok (), ⟨s.state, s.sink.note sink (r.traceCreation s x now), supply⟩))
    (hUses : s.supply.Uses 1 supply) :
    Step r s (r.attend (.started x) s).1 (r.attend (.started x) s).2 := by
  have hAnswer := answer_of_unknown (r := r) unknown
  have hForget := RunMap.forget_resolve unknown x.parent (r.policy.join s.supply.takeId.1)
  have hParent := RunMap.parentSpanId?_resolve unknown x.parent (r.policy.join s.supply.takeId.1)
  rw [resolution_of_unknown unknown] at hForget
  have hNext : supply.takeId.1 = s.supply.takeId.2.takeId.1 := by
    simp [Supply.takeId, hUses.ids, hUses.used]
  have hUses' : s.supply.Uses 2 supply.takeId.2.takeTime.2 :=
    ⟨hUses.ids, by simp [Supply.takeId, Supply.takeTime, hUses.used]⟩
  let w : Write := .createSpan (r.spanFor s x supply.takeId.2.takeTime.1)
  rcases hSend : Sink.send w sink with ⟨e | _, later⟩
  · have hSend' : Sink.send w (s.sink.note sink (r.traceCreation s x now)).sink =
        (.error e, later) := hSend
    have hRun : r.begin x s = (.error e, ⟨s.state, s.sink.note later
        (r.traceCreation s x now ++ [⟨w, some e⟩]), supply.takeId.2.takeTime.2⟩) := by
      simp only [begin, Work.run_bind, Work.run_state, Work.run_newId, Work.run_now,
        resolution_of_unknown unknown, hTrace, hParent, hForget, hNext]
      simp only [spanFor, w] at hSend'
      simp only [Work.run_send_watched hSend', Work.run_bind, Work.run_put, Work.run_pure,
        Watched.note_note, Handover.ofAnswer, spanFor, w]
    rw [hRun] at hAnswer
    rw [attend_eq hAnswer rfl]
    exact .spanRefused unknown hUses'
  · have hSend' : Sink.send w (s.sink.note sink (r.traceCreation s x now)).sink =
        (.ok (), later) := hSend
    have hRun : r.begin x s =
        (.ok ⟨r.traceIdFor s x, (r.spanFor s x supply.takeId.2.takeTime.1).id,
            !s.state.traces.contains (r.traceIdFor s x), false⟩,
          ⟨s.state.enroll x.run (r.traceIdFor s x)
              (r.spanFor s x supply.takeId.2.takeTime.1).id x.kind.spanType,
            s.sink.note later (r.traceCreation s x now ++ [⟨w, none⟩]),
            supply.takeId.2.takeTime.2⟩) := by
      simp only [begin, Work.run_bind, Work.run_state, Work.run_newId, Work.run_now,
        resolution_of_unknown unknown, hTrace, hParent, hNext]
      simp only [spanFor, w] at hSend'
      simp only [Work.run_send_watched hSend', Work.run_bind, Work.run_put, Work.run_pure,
        Watched.note_note, Handover.ofAnswer, spanFor, w, RunMap.register_resolve unknown]
      rfl
    rw [hRun] at hAnswer
    rw [attend_eq hAnswer rfl]
    exact .opened unknown hUses'

theorem step_begin : Step r s (r.attend (.started x) s).1 (r.attend (.started x) s).2 := by
  have hUses : s.supply.Uses 1 s.supply.takeId.2 := ⟨rfl, rfl⟩
  cases hNew : s.state.traces.contains (r.traceIdFor s x) with
  | true =>
      refine step_begin_of_trace unknown s.supply.takeId.2.takeTime.1 s.sink.sink _ ?_ hUses
      simp only [createTrace, traceCreation, hNew, Bool.not_true, if_false, if_true,
        Work.run_pure, Watched.note_nil, Bool.false_eq_true]
  | false =>
      let now := s.supply.takeId.2.takeTime.1
      let w : Write := .createTrace (r.traceOf (r.traceIdFor s x) now)
      rcases hSend : Sink.send w s.sink.sink with ⟨e | _, sink⟩
      · have hTrace : r.createTrace ⟨r.traceIdFor s x, true⟩
            ⟨s.state, s.sink, s.supply.takeId.2⟩ =
              (.error e, ⟨s.state, s.sink.note sink [⟨w, some e⟩],
                s.supply.takeId.2.takeTime.2⟩) := by
          simp only [createTrace, if_true, Work.run_bind, Work.run_now,
            Work.run_send_watched hSend, Handover.ofAnswer, w, now]
        have hForget := RunMap.forget_resolve unknown x.parent
          (r.policy.join s.supply.takeId.1)
        rw [resolution_of_unknown unknown] at hForget
        have hRun : r.begin x s = (.error e, ⟨s.state, s.sink.note sink [⟨w, some e⟩],
            s.supply.takeId.2.takeTime.2⟩) := by
          simp only [hNew, Bool.not_false] at hForget
          simp only [begin, Work.run_bind, Work.run_state, Work.run_newId,
            resolution_of_unknown unknown, hNew, Bool.not_false, hTrace, hForget,
            Work.run_put, Work.run_pure]
        have hAnswer := answer_of_unknown (r := r) unknown
        rw [hRun] at hAnswer
        rw [attend_eq hAnswer rfl]
        exact .traceRefused unknown hNew ⟨rfl, rfl⟩
      · refine step_begin_of_trace unknown now sink s.supply.takeId.2.takeTime.2 ?_ ⟨rfl, rfl⟩
        simp only [createTrace, traceCreation, hNew, Bool.not_false, if_true,
          Work.run_bind, Work.run_now, Work.run_send_watched hSend, Handover.ofAnswer, w, now,
          Bool.false_eq_true, if_false]

end Unknown

theorem step_start (hSettled : s.state.Settled) (x : RunStart) :
    Step r s (r.attend (.started x) s).1 (r.attend (.started x) s).2 := by
  cases hSpan : s.state.spanId? x.run with
  | none => exact step_begin (hSettled.spanId?_eq_none_iff.1 hSpan)
  | some id =>
      have hAnswer : r.answer (.started x) s =
          (.started (.ok ⟨(s.state.traceId? x.run).getD "", id, false, true⟩), s) := by
        simp only [answer, start, Work.run_map, Work.run_bind, Work.run_state, hSpan,
          Work.run_pure]
      rw [attend_eq hAnswer (List.append_nil _).symm]
      exact .again hSpan

/-- With a settled run map every notice is answered in one of the seven ways. -/
theorem step_attend (hSettled : s.state.Settled) (n : Notice) :
    Step r s (r.attend n s).1 (r.attend n s).2 := by
  cases n with
  | started x => exact step_start hSettled x
  | ended run output => exact step_finish hSettled rfl
  | failed run error => exact step_finish hSettled rfl

end

end Recorder

end StoryTrace
