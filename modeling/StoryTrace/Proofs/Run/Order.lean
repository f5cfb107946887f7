import StoryTrace.Proofs.Run.Turn

/-!
# Order of writes

No span is created before its trace, and none is closed before it is created in that trace. A trace
is created again only if the span was refused for which it had been created.
-/

namespace StoryTrace

namespace Handover

/-- The trace that the write has created, if it has created one. -/
def createdTraceId? : Handover → Option String
  | ⟨.createTrace t, none⟩ => some t.id
  | _ => none

/-- The traces that were created, once for every creation that was accepted. -/
def createdTraceIds (handovers : List Handover) : List String :=
  handovers.filterMap createdTraceId?

/-- The creation of the span in the trace was accepted. -/
def SpanCreated (handovers : List Handover) (id traceId : String) : Prop :=
  ∃ span, ⟨.createSpan span, none⟩ ∈ handovers ∧ span.id = id ∧ span.traceId = traceId

/-- What an accepted write needs is there: the trace of a span, and the trace and the span of a
closure. -/
def Prepared (before : List Handover) : Handover → Prop
  | ⟨.createSpan span, none⟩ => span.traceId ∈ createdTraceIds before
  | ⟨.endSpan c, none⟩ =>
    c.traceId ∈ createdTraceIds before ∧ SpanCreated before c.spanId c.traceId
  | _ => True

/-- What every write needs was accepted before it. -/
def InOrder (handovers : List Handover) : Prop :=
  ∀ before x after, handovers = before ++ x :: after → Prepared before x

@[simp] theorem createdTraceIds_nil : createdTraceIds [] = [] := rfl

@[simp] theorem createdTraceIds_append (before after : List Handover) :
    createdTraceIds (before ++ after) = createdTraceIds before ++ createdTraceIds after :=
  List.filterMap_append

@[simp] theorem createdTraceIds_createTrace (t : Trace) :
    createdTraceIds [⟨.createTrace t, none⟩] = [t.id] := rfl

@[simp] theorem createdTraceIds_createSpan (span : Span) (refusal : Option SinkError) :
    createdTraceIds [⟨.createSpan span, refusal⟩] = [] := rfl

@[simp] theorem createdTraceIds_endSpan (c : Closure) (refusal : Option SinkError) :
    createdTraceIds [⟨.endSpan c, refusal⟩] = [] := rfl

@[simp] theorem createdTraceIds_refused (w : Write) (e : SinkError) :
    createdTraceIds [⟨w, some e⟩] = [] := by
  cases w <;> rfl

theorem createdTraceIds_flatMap {α : Type} (items : List α) (handovers : α → List Handover) :
    createdTraceIds (items.flatMap handovers) =
      items.flatMap fun a => createdTraceIds (handovers a) := by
  induction items with
  | nil => rfl
  | cons a rest ih => simp only [List.flatMap_cons, createdTraceIds_append, ih]

theorem SpanCreated.append {before : List Handover} {id traceId : String}
    (h : SpanCreated before id traceId) (after : List Handover) :
    SpanCreated (before ++ after) id traceId := by
  obtain ⟨span, hMem, hIds⟩ := h
  exact ⟨span, List.mem_append_left _ hMem, hIds⟩

theorem prepared_refused (before : List Handover) (w : Write) (e : SinkError) :
    Prepared before ⟨w, some e⟩ := by
  cases w <;> exact trivial

theorem InOrder.append_singleton {before : List Handover} (h : InOrder before) {x : Handover}
    (hLast : Prepared before x) : InOrder (before ++ [x]) := forall_split_append_singleton h hLast

end Handover

open Handover

/-- The start has created the trace, and its span was refused. -/
def Exchange.LostSpan (y : Exchange) (traceId : String) : Prop :=
  ∃ start e trace span, y = ⟨.started start, .started (.error e),
    [⟨.createTrace trace, none⟩, ⟨.createSpan span, some e⟩]⟩ ∧
      trace.id = traceId ∧ span.traceId = traceId

namespace Recorder

variable {σ : Type} {r : Recorder} {x : RunStart} {s s' : Session RunMap (Watched σ)}

/-- The creation of a trace is handed over once, if the trace was not met before. -/
theorem traceCreation_cases (r : Recorder) (s : Session RunMap (Watched σ)) (x : RunStart)
    (now : Instant) :
    (r.traceIdFor s x ∈ s.state.traces ∧ r.traceCreation s x now = []) ∨
      (r.traceIdFor s x ∉ s.state.traces ∧
        ∃ t : Trace, t.id = r.traceIdFor s x ∧
          r.traceCreation s x now = [⟨.createTrace t, none⟩]) := by
  by_cases hMet : r.traceIdFor s x ∈ s.state.traces
  · exact .inl ⟨hMet, by simp [traceCreation, hMet]⟩
  · exact .inr ⟨hMet, r.traceOf (r.traceIdFor s x) now, rfl, by simp [traceCreation, hMet]⟩

theorem mem_createdTraceIds_traceCreation_iff {now : Instant} {id : String} :
    id ∈ createdTraceIds (r.traceCreation s x now) ↔
      id = r.traceIdFor s x ∧ id ∉ s.state.traces := by
  rcases traceCreation_cases r s x now with ⟨hMet, hNone⟩ | ⟨hNew, t, hId, hOne⟩
  · rw [hNone]
    constructor
    · intro h
      cases h
    · rintro ⟨rfl, hNot⟩
      exact absurd hMet hNot
  · rw [hOne, createdTraceIds_createTrace, List.mem_singleton, hId]
    constructor
    · rintro rfl
      exact ⟨rfl, hNew⟩
    · exact fun h => h.1

/-- What a session has written so far was in order, and everything in its run map was created. -/
structure Ordered (history : List Exchange) (s : Session RunMap (Watched σ)) : Prop where
  handovers : s.sink.handovers = history.flatMap (·.handovers)
  inOrder : InOrder s.sink.handovers
  traces : ∀ id ∈ s.state.traces, id ∈ createdTraceIds s.sink.handovers
  runs : ∀ run e, s.state.find? run = some e → e.traceId ∈ s.state.traces ∧
    ∀ span, e.span = some span → SpanCreated s.sink.handovers span.id e.traceId
  kept : ∀ y ∈ history, ∀ id ∈ createdTraceIds y.handovers, id ∈ s.state.traces ∨ y.LostSpan id
  once : ∀ y ∈ history, (createdTraceIds y.handovers).Nodup
  again : history.Pairwise fun y z =>
    ∀ id ∈ createdTraceIds y.handovers, id ∈ createdTraceIds z.handovers → y.LostSpan id

theorem ordered_session (sink : σ) (supply : Supply) : Ordered [] (session sink supply) where
  handovers := rfl
  inOrder before x after hSplit := by simp [session, Watched.start] at hSplit
  traces := List.forall_mem_nil _
  runs _ _ hFind := by cases hFind
  kept := List.forall_mem_nil _
  once := List.forall_mem_nil _
  again := List.Pairwise.nil

/-- An exchange continues a session in order if what it hands over is prepared, it creates traces
that were not met only, and the run map meets no other ones. -/
theorem Ordered.append_singleton {history : List Exchange} (h : Ordered history s) {y : Exchange}
    (hNoted : s'.sink.handovers = s.sink.handovers ++ y.handovers)
    (hInOrder : InOrder (s.sink.handovers ++ y.handovers))
    (hMore : ∀ id ∈ s.state.traces, id ∈ s'.state.traces)
    (hTraces : ∀ id ∈ s'.state.traces, id ∈ s.state.traces ∨ id ∈ createdTraceIds y.handovers)
    (hRuns : ∀ run e, s'.state.find? run = some e → e.traceId ∈ s'.state.traces ∧
      ∀ span, e.span = some span →
        SpanCreated (s.sink.handovers ++ y.handovers) span.id e.traceId)
    (hCreated : ∀ id ∈ createdTraceIds y.handovers,
      id ∉ s.state.traces ∧ (id ∈ s'.state.traces ∨ y.LostSpan id))
    (hOnce : (createdTraceIds y.handovers).Nodup) : Ordered (history ++ [y]) s' where
  handovers := by
    rw [hNoted, h.handovers, List.flatMap_append]
    simp
  inOrder := hNoted ▸ hInOrder
  traces id hId := by
    rw [hNoted, createdTraceIds_append, List.mem_append]
    exact (hTraces id hId).imp_left (h.traces id)
  runs run e hFind := hNoted ▸ hRuns run e hFind
  kept z hz id hId := by
    rcases List.mem_append.1 hz with hOld | hLast
    · exact (h.kept z hOld id hId).imp_left (hMore id)
    · obtain rfl := List.mem_singleton.1 hLast
      exact (hCreated id hId).2
  once := List.forall_mem_append.2 ⟨h.once, List.forall_mem_singleton.2 hOnce⟩
  again := by
    refine List.pairwise_append.2 ⟨h.again, List.pairwise_singleton _ _, ?_⟩
    intro z hz last hLast id hBefore hNow
    obtain rfl := List.mem_singleton.1 hLast
    exact (h.kept z hz id hBefore).resolve_left (hCreated id hNow).1

section

variable {history : List Exchange} (h : Ordered history s)
include h

/-- An exchange that leaves the run map alone and creates no trace continues the session. -/
theorem Ordered.append_of_same {y : Exchange} (hSame : s'.state = s.state)
    (hNoted : s'.sink.handovers = s.sink.handovers ++ y.handovers)
    (hInOrder : InOrder (s.sink.handovers ++ y.handovers))
    (hCreated : ∀ id ∈ createdTraceIds y.handovers, id ∉ s.state.traces ∧ y.LostSpan id)
    (hOnce : (createdTraceIds y.handovers).Nodup) : Ordered (history ++ [y]) s' := by
  refine h.append_singleton hNoted hInOrder ?more ?traces ?runs ?created hOnce
  case more => exact fun id hId => hSame ▸ hId
  case traces => exact fun id hId => .inl (hSame ▸ hId)
  case runs =>
    intro run e hFind
    rw [hSame] at hFind ⊢
    obtain ⟨hTrace, hSpan⟩ := h.runs run e hFind
    exact ⟨hTrace, fun span hIs => (hSpan span hIs).append _⟩
  case created => exact fun id hId => (hCreated id hId).imp_right .inr

theorem Ordered.inOrder_traceCreation (now : Instant) :
    InOrder (s.sink.handovers ++ r.traceCreation s x now) := by
  rcases traceCreation_cases r s x now with ⟨-, hNone⟩ | ⟨-, t, -, hOne⟩
  · rw [hNone, List.append_nil]
    exact h.inOrder
  · rw [hOne]
    exact h.inOrder.append_singleton trivial

/-- When a span is offered, its trace was created before or has just been. -/
theorem Ordered.created_traceCreation (now : Instant) :
    r.traceIdFor s x ∈ createdTraceIds (s.sink.handovers ++ r.traceCreation s x now) := by
  rw [createdTraceIds_append, List.mem_append]
  by_cases hMet : r.traceIdFor s x ∈ s.state.traces
  · exact .inl (h.traces _ hMet)
  · exact .inr (mem_createdTraceIds_traceCreation_iff.2 ⟨rfl, hMet⟩)

omit h in
theorem nodup_createdTraceIds_traceCreation (now : Instant) :
    (createdTraceIds (r.traceCreation s x now)).Nodup := by
  rcases traceCreation_cases r s x now with ⟨-, hNone⟩ | ⟨-, t, -, hOne⟩
  · rw [hNone]
    exact List.nodup_nil
  · rw [hOne]
    exact List.nodup_singleton _

theorem Ordered.spanRefused (e : SinkError) (now later : Instant)
    (hSame : s'.state = s.state)
    (hNoted : s'.sink.handovers = s.sink.handovers ++
      (r.traceCreation s x now ++ [⟨.createSpan (r.spanFor s x later), some e⟩])) :
    Ordered (history ++ [⟨.started x, .started (.error e),
      r.traceCreation s x now ++ [⟨.createSpan (r.spanFor s x later), some e⟩]⟩]) s' := by
  refine h.append_of_same hSame hNoted ?inOrder ?created ?once
  case inOrder =>
    rw [← List.append_assoc]
    exact (h.inOrder_traceCreation now).append_singleton (prepared_refused _ _ _)
  case created =>
    intro id hId
    rw [createdTraceIds_append, createdTraceIds_createSpan, List.append_nil] at hId
    obtain ⟨rfl, hNew⟩ := mem_createdTraceIds_traceCreation_iff.1 hId
    refine ⟨hNew, ?_⟩
    rcases traceCreation_cases r s x now with ⟨hMet, -⟩ | ⟨-, t, hTrace, hOne⟩
    · exact absurd hMet hNew
    · exact ⟨x, e, t, r.spanFor s x later, by rw [hOne]; rfl, hTrace, rfl⟩
  case once =>
    rw [createdTraceIds_append, createdTraceIds_createSpan, List.append_nil]
    exact nodup_createdTraceIds_traceCreation now

theorem Ordered.opened (answer : Answer) (now later : Instant)
    (hState : s'.state =
      s.state.enroll x.run (r.traceIdFor s x) (r.spanFor s x later).id x.kind.spanType)
    (hNoted : s'.sink.handovers = s.sink.handovers ++
      (r.traceCreation s x now ++ [⟨.createSpan (r.spanFor s x later), none⟩])) :
    Ordered (history ++ [⟨.started x, answer,
      r.traceCreation s x now ++ [⟨.createSpan (r.spanFor s x later), none⟩]⟩]) s' := by
  have hTraces : s'.state.traces = (s.state.addTrace (r.traceIdFor s x)).traces := by
    rw [hState]
    rfl
  refine h.append_singleton hNoted ?inOrder ?more ?traces ?runs ?created ?once
  case inOrder =>
    rw [← List.append_assoc]
    exact (h.inOrder_traceCreation now).append_singleton (h.created_traceCreation now)
  case more =>
    intro id hId
    rw [hTraces]
    exact RunMap.mem_traces_addTrace.2 (.inr hId)
  case traces =>
    intro id hId
    rw [hTraces] at hId
    by_cases hMet : id ∈ s.state.traces
    · exact .inl hMet
    · obtain rfl := (RunMap.mem_traces_addTrace.1 hId).resolve_right hMet
      right
      rw [createdTraceIds_append, List.mem_append]
      exact .inl (mem_createdTraceIds_traceCreation_iff.2 ⟨rfl, hMet⟩)
  case runs =>
    intro run e hFind
    rw [hTraces]
    rw [hState, RunMap.find?, RunMap.runs_enroll, List.lookup_cons] at hFind
    split at hFind
    case h_1 =>
      obtain rfl := Option.some.inj hFind
      refine ⟨RunMap.mem_traces_addTrace.2 (.inl rfl), ?_⟩
      intro span hIs
      obtain rfl := Option.some.inj hIs
      exact ⟨r.spanFor s x later, by simp, rfl, rfl⟩
    case h_2 =>
      obtain ⟨hTrace, hSpan⟩ := h.runs run e hFind
      exact ⟨RunMap.mem_traces_addTrace.2 (.inr hTrace),
        fun span hIs => (hSpan span hIs).append _⟩
  case created =>
    intro id hId
    rw [createdTraceIds_append, createdTraceIds_createSpan, List.append_nil] at hId
    obtain ⟨rfl, hNew⟩ := mem_createdTraceIds_traceCreation_iff.1 hId
    exact ⟨hNew, .inl (hTraces ▸ RunMap.mem_traces_addTrace.2 (.inl rfl))⟩
  case once =>
    rw [createdTraceIds_append, createdTraceIds_createSpan, List.append_nil]
    exact nodup_createdTraceIds_traceCreation now

/-- The span of a run that is closed was created in the trace of the run. -/
theorem Ordered.closed {n : Notice} {run : RunId} {closure : ClosedRun → Instant → Closure}
    {taken : ClosedRun} (answer : Answer) (now : Instant) (ends : n.ending? = some (run, closure))
    (known : s.state.find? run = some ⟨taken.traceId, some ⟨taken.spanId, taken.type, true⟩⟩)
    (hState : s'.state = s.state.setOpen run false)
    (hNoted : s'.sink.handovers = s.sink.handovers ++
      [⟨.endSpan ((closure taken now).withType taken.type), none⟩]) :
    Ordered (history ++
      [⟨n, answer, [⟨.endSpan ((closure taken now).withType taken.type), none⟩]⟩]) s' := by
  have hTraces : s'.state.traces = s.state.traces := by
    rw [hState]
    rfl
  obtain ⟨hTraceId, hSpanId, -⟩ := closure_of_ending ends taken now
  obtain ⟨hTrace, hSpan⟩ := h.runs run _ known
  refine h.append_singleton hNoted ?inOrder ?more ?traces ?runs ?created ?once
  case inOrder =>
    refine h.inOrder.append_singleton ⟨?_, ?_⟩
    · exact hTraceId ▸ h.traces _ hTrace
    · exact hTraceId ▸ hSpanId ▸ hSpan _ rfl
  case more => exact fun id hId => hTraces ▸ hId
  case traces => exact fun id hId => .inl (hTraces ▸ hId)
  case runs =>
    intro other e hFind
    rw [hTraces]
    rw [hState, RunMap.setOpen, RunMap.find?_update] at hFind
    split at hFind
    case isTrue hHere =>
      obtain ⟨old, hOld, rfl⟩ := Option.map_eq_some_iff.1 hFind
      obtain ⟨hTrace, hSpan⟩ := h.runs other old hOld
      refine ⟨hTrace, fun span hIs => ?_⟩
      obtain ⟨before, hBefore, rfl⟩ := Option.map_eq_some_iff.1 hIs
      exact (hSpan before hBefore).append _
    case isFalse =>
      obtain ⟨hTrace, hSpan⟩ := h.runs other e hFind
      exact ⟨hTrace, fun span hIs => (hSpan span hIs).append _⟩
  case created => exact List.forall_mem_nil _
  case once => exact List.nodup_nil

end

theorem Step.ordered [Sink σ] {history : List Exchange} {y : Exchange} (hStep : Step r s y s')
    (h : Ordered history s) : Ordered (history ++ [y]) s' := by
  have hIdle (notice : Notice) (answer : Answer) : Ordered (history ++ [⟨notice, answer, []⟩]) s :=
    h.append_of_same rfl (List.append_nil _).symm (by simpa using h.inOrder)
      (List.forall_mem_nil _) List.nodup_nil
  cases hStep with
  | again _ => exact hIdle _ _
  | idle _ _ => exact hIdle _ _
  | traceRefused _ _ _ =>
      exact h.append_of_same rfl rfl (h.inOrder.append_singleton (prepared_refused _ _ _))
        (by simp) (by simp)
  | spanRefused _ _ => exact h.spanRefused _ _ _ rfl rfl
  | opened _ _ => exact h.opened _ _ _ rfl rfl
  | closeRefused _ _ _ _ =>
      exact h.append_of_same rfl rfl (h.inOrder.append_singleton (prepared_refused _ _ _))
        (by simp) (by simp)
  | closed ends known _ _ => exact h.closed _ _ ends known rfl rfl

/-- As long as no span is refused no trace is created twice. -/
theorem Ordered.nodup_createdTraceIds {history : List Exchange} (h : Ordered history s)
    (hSpans : ∀ span e, (⟨.createSpan span, some e⟩ : Handover) ∉ s.sink.handovers) :
    (createdTraceIds s.sink.handovers).Nodup := by
  have hNotLost : ∀ y ∈ history, ∀ id, ¬ y.LostSpan id := by
    rintro y hy id ⟨start, e, trace, span, rfl, -⟩
    apply hSpans span e
    rw [h.handovers]
    exact List.mem_flatMap.2 ⟨_, hy, by simp⟩
  rw [h.handovers, createdTraceIds_flatMap, List.nodup_flatMap]
  refine ⟨h.once, ?_⟩
  have hAgain := List.Pairwise.and_mem.1 h.again
  apply hAgain.imp
  rintro y z ⟨hy, -, hTwice⟩ id hBefore hNow
  exact hNotLost y hy id (hTwice id hBefore hNow)

/-! ## Order in a session -/

/-- Whatever the sink refuses and whichever trace top-level runs join: an accepted span comes after
the creation of its trace and an accepted closure after the creations of its trace and of its span,
a trace is created again only if the span of the start was refused that had created it, and as long
as no span is refused the trace of every span is created exactly once. -/
theorem writes_in_order [Sink σ] (r : Recorder) (sink : σ) {supply : Supply}
    {notices : List Notice} {history : List Exchange} {s : Session RunMap (Watched σ)}
    (hRun : r.attendAll notices (session sink supply) = (history, s)) :
    s.sink.handovers = history.flatMap (·.handovers) ∧
    InOrder s.sink.handovers ∧
    (history.Pairwise fun y z => ∀ id ∈ createdTraceIds y.handovers,
      id ∈ createdTraceIds z.handovers → y.LostSpan id) ∧
    ((∀ span e, (⟨.createSpan span, some e⟩ : Handover) ∉ s.sink.handovers) →
      (createdTraceIds s.sink.handovers).Nodup ∧
      ∀ span ∈ s.sink.createdSpans, (createdTraceIds s.sink.handovers).count span.traceId = 1) := by
  obtain ⟨-, hOrdered⟩ := steps_attendAll (motive := Ordered)
    (fun _ h hStep => hStep.ordered h) (ordered_session sink supply) hRun
  refine ⟨hOrdered.handovers, hOrdered.inOrder, hOrdered.again, ?_⟩
  intro hSpans
  have hNodup := hOrdered.nodup_createdTraceIds hSpans
  refine ⟨hNodup, ?_⟩
  intro span hSpan
  obtain ⟨w, hw, hCreated⟩ := List.mem_filterMap.1 hSpan
  obtain ⟨x, hx, hAccepted⟩ := List.mem_filterMap.1 hw
  obtain ⟨before, after, hSplit⟩ := List.append_of_mem hx
  have hPrepared := hOrdered.inOrder before x after hSplit
  obtain ⟨write, refusal⟩ := x
  cases refusal with
  | some e => cases hAccepted
  | none =>
      obtain rfl := Option.some.inj hAccepted
      cases write with
      | createSpan other =>
          obtain rfl := Option.some.inj hCreated
          apply List.count_eq_one_of_mem hNodup
          rw [hSplit, createdTraceIds_append]
          exact List.mem_append_left _ hPrepared
      | createTrace _ => cases hCreated
      | endSpan _ => cases hCreated
      | updateTrace _ => cases hCreated

/-- Two top-level runs join one trace over a store that refuses the first creation of the trace and
then so many spans. The first run is started again after each refusal, and ends. -/
def sharedRuns (spanRefusals : Nat) : List Exchange × Session RunMap (Watched Gate) :=
  (Recorder.mk "story" none (.fixed "shared") false).attendAll
    [.started (.new "plan" .chain (.text "goal")), .started (.new "plan" .chain (.text "goal")),
      .started (.new "plan" .chain (.text "goal")), .started (.new "tool" .tool (.text "search")),
      .ended "plan" (.value .null)]
    (session ((Gate.start.refuse .createTrace 1).refuse .createSpan spanRefusals)
      (.counting ⟨0, 0⟩))

theorem writes_in_order_sharedRuns :
    (sharedRuns 0).2.sink.createdSpans.map (·.traceId) = ["shared", "shared"] ∧
    (∀ span ∈ (sharedRuns 0).2.sink.createdSpans,
      (createdTraceIds (sharedRuns 0).2.sink.handovers).count span.traceId = 1) ∧
    createdTraceIds (sharedRuns 1).2.sink.handovers = ["shared", "shared"] ∧
    InOrder (sharedRuns 1).2.sink.handovers := by
  have hAccepted : ∀ x ∈ (sharedRuns 0).2.sink.handovers,
      x.write.createdSpan?.isSome = true → x.refusal.isSome = false := by
    decide +kernel
  obtain ⟨-, -, -, hOnce⟩ := writes_in_order ⟨"story", none, .fixed "shared", false⟩
    ((Gate.start.refuse .createTrace 1).refuse .createSpan 0) (Prod.eta (sharedRuns 0)).symm
  obtain ⟨-, hInOrder, -, -⟩ := writes_in_order ⟨"story", none, .fixed "shared", false⟩
    ((Gate.start.refuse .createTrace 1).refuse .createSpan 1) (Prod.eta (sharedRuns 1)).symm
  refine ⟨by decide +kernel, (hOnce ?_).2, by decide +kernel, hInOrder⟩
  intro span e hRefused
  exact absurd (hAccepted _ hRefused rfl).symm Bool.false_ne_true

end Recorder

end StoryTrace
