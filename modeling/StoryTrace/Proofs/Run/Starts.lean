import StoryTrace.Proofs.Run.Turn

/-!
# Starts of runs

The first start of a run is offered to the sink. If the sink refuses it, the run map is the one from
before and the run can be started as if for the first time. Every later start of the run is answered
with the ids that the first one was answered with, and changes nothing.
-/

namespace StoryTrace

namespace RunMap

variable {m : RunMap}

theorem find?_enroll (m : RunMap) (run other : RunId) (traceId spanId : String) (type : SpanType) :
    (m.enroll run traceId spanId type).find? other =
      if other = run then some ⟨traceId, some ⟨spanId, type, true⟩⟩ else m.find? other := by
  by_cases hRun : other = run
  · subst hRun
    simp [find?]
  · simp [find?, List.lookup_cons, hRun, beq_eq_false_iff_ne.2 hRun]

/-- What a map tells of a run's ids. -/
def ids? (m : RunMap) (run : RunId) : Option (String × String) :=
  (m.find? run).bind fun e => e.span.map fun span => (e.traceId, span.id)

theorem ids?_eq_some_iff {run : RunId} {traceId id : String} :
    m.ids? run = some (traceId, id) ↔ m.traceId? run = some traceId ∧ m.spanId? run = some id := by
  simp only [ids?, traceId?, spanId?, span?]
  cases m.find? run with
  | none => simp
  | some e =>
      obtain ⟨found, span⟩ := e
      cases span <;> simp

theorem ids?_of_find?_eq_none {run : RunId} (h : m.find? run = none) : m.ids? run = none := by
  simp [ids?, h]

theorem ids?_setOpen (m : RunMap) (run other : RunId) (isOpen : Bool) :
    (m.setOpen run isOpen).ids? other = m.ids? other := by
  simp only [ids?, setOpen, find?_update]
  split
  · cases m.find? other with
    | none => rfl
    | some e =>
        obtain ⟨traceId, span⟩ := e
        cases span <;> rfl
  · rfl

end RunMap

namespace Recorder

variable {σ : Type}

/-- How the first start of a run is answered: the sink refuses to create its trace or its span and
the run map stays as it is, or the run is mapped to the trace of its parent or of the policy, which
is created unless it was met before, and to a span below that of the parent. -/
inductive FirstStart (r : Recorder) (x : RunStart) (s : Session RunMap (Watched σ)) :
    Except SinkError StartedRun → Session RunMap (Watched σ) → Prop where
  | refused {e : SinkError} {w : Write} {noted : List Handover} {t : Session RunMap (Watched σ)}
      (same : t.state = s.state)
      (creates : (∃ trace, w = .createTrace trace) ∨ ∃ span, w = .createSpan span)
      (accepted : ∀ y ∈ noted, y.refusal = none)
      (handed : t.sink.handovers = s.sink.handovers ++ (noted ++ [⟨w, some e⟩])) :
      FirstStart r x s (.error e) t
  | opened {now later : Instant} {t : Session RunMap (Watched σ)}
      (enrolled : t.state =
        s.state.enroll x.run (r.traceIdFor s x) (r.spanFor s x later).id x.kind.spanType)
      (handed : t.sink.handovers = s.sink.handovers ++
        (r.traceCreation s x now ++ [⟨.createSpan (r.spanFor s x later), none⟩])) :
      FirstStart r x s (.ok ⟨r.traceIdFor s x, (r.spanFor s x later).id,
        !s.state.traces.contains (r.traceIdFor s x), false⟩) t

variable {r : Recorder} {x : RunStart} {s t : Session RunMap (Watched σ)}

theorem refusal_of_mem_traceCreation {now : Instant} {y : Handover}
    (hy : y ∈ r.traceCreation s x now) : y.refusal = none := by
  unfold traceCreation at hy
  split at hy
  · cases hy
  · rw [List.mem_singleton.1 hy]

variable [Sink σ]

theorem Step.firstStart {y : Exchange} {result : Except SinkError StartedRun} (h : Step r s y t)
    (hNotice : y.notice = .started x) (hAnswer : y.answer = .started result)
    (unknown : s.state.find? x.run = none) : FirstStart r x s result t := by
  cases h with
  | again known =>
      obtain rfl := Notice.started.inj hNotice
      simp [RunMap.spanId?, RunMap.span?, unknown] at known
  | traceRefused _ _ _ =>
      obtain rfl := Notice.started.inj hNotice
      obtain rfl := Answer.started.inj hAnswer
      have hNone : ∀ y ∈ ([] : List Handover), y.refusal = none := List.forall_mem_nil _
      exact .refused rfl (.inl ⟨_, rfl⟩) hNone rfl
  | spanRefused _ _ =>
      obtain rfl := Notice.started.inj hNotice
      obtain rfl := Answer.started.inj hAnswer
      exact .refused rfl (.inr ⟨_, rfl⟩) (fun y hy => refusal_of_mem_traceCreation hy) rfl
  | opened _ _ =>
      obtain rfl := Notice.started.inj hNotice
      obtain rfl := Answer.started.inj hAnswer
      exact .opened rfl rfl
  | idle _ _ => cases hAnswer
  | closeRefused _ _ _ _ => cases hAnswer
  | closed _ _ _ _ => cases hAnswer

theorem firstStart_start (hSettled : s.state.Settled) (unknown : s.state.find? x.run = none) :
    FirstStart r x s (r.start x s).1 (r.start x s).2 :=
  (step_start hSettled x).firstStart rfl rfl unknown

theorem start_of_spanId? {id : String} (known : s.state.spanId? x.run = some id) :
    r.start x s = (.ok ⟨(s.state.traceId? x.run).getD "", id, false, true⟩, s) := by
  simp only [start, Work.run_bind, Work.run_state, known, Work.run_pure]

/-! ## Ids of started runs -/

/-- A run map still tells the ids that every start was answered with. -/
def Recalls (m : RunMap) (history : List Exchange) : Prop :=
  ∀ y ∈ history, ∀ known, y.answer = .started (.ok known) →
    m.ids? y.notice.run = some (known.traceId, known.spanId)

theorem Recalls.append_singleton {m m' : RunMap} {history : List Exchange} (h : Recalls m history)
    {y : Exchange} (hKeeps : ∀ run ids, m.ids? run = some ids → m'.ids? run = some ids)
    (hLast : ∀ known, y.answer = .started (.ok known) →
      m'.ids? y.notice.run = some (known.traceId, known.spanId)) :
    Recalls m' (history ++ [y]) := by
  intro z hz known hAnswer
  rcases List.mem_append.1 hz with hOld | hNew
  · exact hKeeps _ _ (h z hOld known hAnswer)
  · obtain rfl := List.mem_singleton.1 hNew
    exact hLast known hAnswer

theorem Recalls.append_other {m : RunMap} {history : List Exchange} (h : Recalls m history)
    {y : Exchange} (hOther : ∀ known, y.answer ≠ .started (.ok known)) :
    Recalls m (history ++ [y]) :=
  h.append_singleton (fun _ _ hIds => hIds) fun known hAnswer => absurd hAnswer (hOther known)

theorem Step.recalls {y : Exchange} {history : List Exchange} (hStep : Step r s y t)
    (h : Recalls s.state history) : Recalls t.state (history ++ [y]) := by
  cases hStep with
  | @again x id known =>
      refine h.append_singleton (fun _ _ hIds => hIds) ?_
      intro other hAnswer
      obtain rfl := Except.ok.inj (Answer.started.inj hAnswer)
      refine RunMap.ids?_eq_some_iff.2 ⟨?_, known⟩
      cases hFind : s.state.find? x.run with
      | none => simp [RunMap.spanId?, RunMap.span?, hFind] at known
      | some e => simp [RunMap.traceId?, Notice.run, hFind]
  | traceRefused _ _ _ => exact h.append_other (by simp)
  | spanRefused _ _ => exact h.append_other (by simp)
  | opened unknown _ =>
      refine h.append_singleton ?keeps ?last
      case keeps =>
        intro run ids hIds
        rw [RunMap.ids?, RunMap.find?_enroll]
        split
        case isTrue hRun =>
          rw [hRun, RunMap.ids?_of_find?_eq_none unknown] at hIds
          cases hIds
        case isFalse => exact hIds
      case last =>
        intro known hAnswer
        obtain rfl := Except.ok.inj (Answer.started.inj hAnswer)
        simp [RunMap.ids?, RunMap.find?_enroll, Notice.run]
  | idle _ _ => exact h.append_other (by simp)
  | closeRefused _ _ _ _ => exact h.append_other (by simp)
  | closed _ _ _ _ =>
      refine h.append_singleton ?_ fun _ hAnswer => by cases hAnswer
      intro run ids hIds
      rw [RunMap.ids?_setOpen]
      exact hIds

/-- An accepted start is answered with a run that was not started before. -/
theorem exists_answer_of_acceptedStart? {y : Exchange} (h : y.acceptedStart? = some x) :
    y.notice = .started x ∧ ∃ known, y.answer = .started (.ok known) ∧ known.repeated = false := by
  obtain ⟨notice, answer, handovers⟩ := y
  unfold Exchange.acceptedStart? at h
  split at h
  case h_1 start known hNotice hAnswer =>
    cases hRepeated : known.repeated with
    | true => simp [hRepeated] at h
    | false =>
        simp only [hRepeated, Bool.false_eq_true, if_false, Option.some.injEq] at h
        exact ⟨h ▸ hNotice, known, hAnswer, hRepeated⟩
  case h_2 => cases h

/-! ## Starts in a session -/

/-- Whatever the sink has refused before, a refused start leaves the run map as it was and can be
made again as a first one, and a run that has a span keeps it whatever a further start of it says:
the start is answered with the ids of the first one, and neither the session nor the sink notices
it. -/
theorem refused_start_undone (r : Recorder) (sink : σ) {supply : Supply} {notices : List Notice}
    {history : List Exchange} {s : Session RunMap (Watched σ)}
    (hRun : r.attendAll notices (session sink supply) = (history, s)) (x : RunStart) :
    (s.state.spanId? x.run = none → FirstStart r x s (r.start x s).1 (r.start x s).2) ∧
    (∀ e t, r.start x s = (.error e, t) →
      t.state = s.state ∧ t.state.find? x.run = none ∧
        FirstStart r x t (r.start x t).1 (r.start x t).2) ∧
    ∀ id, s.state.spanId? x.run = some id → ∃ traceId,
      s.state.traceId? x.run = some traceId ∧
      r.start x s = (.ok ⟨traceId, id, false, true⟩, s) ∧
      (∀ y ∈ history, y.notice.run = x.run → ∀ known, y.answer = .started (.ok known) →
        known.traceId = traceId ∧ known.spanId = id) ∧
      ∃ y ∈ history, y.notice.run = x.run ∧
        ∃ new, y.answer = .started (.ok ⟨traceId, id, new, false⟩) := by
  obtain ⟨hHolds, hRecalls⟩ := steps_attendAll
    (motive := fun history s => Recalls s.state history)
    (fun _ h hStep => hStep.recalls h) (List.forall_mem_nil _) hRun
  have hSettled := hHolds.settled
  have hFirst (hNone : s.state.spanId? x.run = none) :=
    firstStart_start (r := r) hSettled (hSettled.spanId?_eq_none_iff.1 hNone)
  refine ⟨hFirst, ?refused, ?repeated⟩
  case refused =>
    intro e t hStart
    have hUnknown : s.state.spanId? x.run = none := by
      cases hSpan : s.state.spanId? x.run with
      | none => rfl
      | some id =>
          rw [start_of_spanId? hSpan] at hStart
          cases hStart
    have hUndone := hFirst hUnknown
    rw [hStart] at hUndone
    cases hUndone with
    | refused same creates accepted handed =>
        have hAgain : t.state.find? x.run = none := by
          rw [same]
          exact hSettled.spanId?_eq_none_iff.1 hUnknown
        exact ⟨same, hAgain, firstStart_start (same ▸ hSettled) hAgain⟩
  case repeated =>
    intro id hSpan
    obtain ⟨l, hl, hLifeRun, hLifeId⟩ := hHolds.spanId?_eq_some_iff.1 hSpan
    have hStarts := map_start_ofHistory hRun
    have hAccepted : l.start ∈ history.filterMap Exchange.acceptedStart? := by
      rw [← hStarts]
      exact List.mem_map_of_mem hl
    obtain ⟨y, hy, hStarted⟩ := List.mem_filterMap.1 hAccepted
    obtain ⟨hNotice, known, hAnswer, hNew⟩ := exists_answer_of_acceptedStart? hStarted
    have hYRun : y.notice.run = x.run := by
      rw [hNotice]
      exact hLifeRun
    have hTold {z : Exchange} (hz : z ∈ history) (hzRun : z.notice.run = x.run)
        {found : StartedRun} (hFound : z.answer = .started (.ok found)) :
        s.state.traceId? x.run = some found.traceId ∧ s.state.spanId? x.run = some found.spanId :=
      RunMap.ids?_eq_some_iff.1 (hzRun ▸ hRecalls z hz found hFound)
    obtain ⟨hTrace, hId⟩ := hTold hy hYRun hAnswer
    refine ⟨known.traceId, hTrace, ?_, ?_, y, hy, hYRun, known.newTrace, ?_⟩
    · rw [start_of_spanId? hSpan, hTrace]
      rfl
    · intro z hz hzRun found hFound
      obtain ⟨hzTrace, hzId⟩ := hTold hz hzRun hFound
      rw [hTrace] at hzTrace
      rw [hSpan] at hzId
      exact ⟨(Option.some.inj hzTrace).symm, (Option.some.inj hzId).symm⟩
    · rw [hAnswer]
      obtain ⟨traceId, spanId, newTrace, wasRepeated⟩ := known
      rw [hSpan] at hId
      simp only at hNew hId
      rw [hNew, Option.some.inj hId]

/-- A recorder of one story. -/
def storyRecorder : Recorder := ⟨"story", none, .perRun, false⟩

def planStart : RunStart := .new "plan" .chain (.text "goal")

/-- A plan is started so many times, over a store that refuses two spans. -/
def planStarts (times : Nat) : List Exchange × Session RunMap (Watched Gate) :=
  storyRecorder.attendAll (List.replicate times (.started planStart))
    (session (Gate.start.refuse .createSpan 2) (.counting ⟨0, 0⟩))

theorem refused_start_undone_planStarts :
    (storyRecorder.start planStart (planStarts 1).2).1 = .error (Gate.refused .createSpan) ∧
    (storyRecorder.start planStart (planStarts 1).2).2.state = (planStarts 1).2.state ∧
    (planStarts 3).2.state.spanId? "plan" = some "iiiii" ∧
    ∃ traceId, storyRecorder.start { planStart with kind := .tool, parent := some "other" }
      (planStarts 3).2 = (.ok ⟨traceId, "iiiii", false, true⟩, (planStarts 3).2) := by
  have hRefused : (storyRecorder.start planStart (planStarts 1).2).1 =
      .error (Gate.refused .createSpan) := by
    decide +kernel
  have hSpan : (planStarts 3).2.state.spanId? "plan" = some "iiiii" := by decide +kernel
  obtain ⟨-, hUndone, -⟩ := refused_start_undone storyRecorder
    (Gate.start.refuse .createSpan 2) (Prod.eta (planStarts 1)).symm planStart
  obtain ⟨-, -, hRepeated⟩ := refused_start_undone storyRecorder
    (Gate.start.refuse .createSpan 2) (Prod.eta (planStarts 3)).symm
    { planStart with kind := .tool, parent := some "other" }
  obtain ⟨hSame, -, -⟩ := hUndone _ _ (Prod.ext hRefused rfl)
  obtain ⟨traceId, -, hStart, -⟩ := hRepeated _ hSpan
  exact ⟨hRefused, hSame, hSpan, traceId, hStart⟩

end Recorder

end StoryTrace
