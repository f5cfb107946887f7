import StoryTrace.Proofs.Run.Mirror
import StoryTrace.Proofs.Sink.Gate

/-!
# Closings of runs

The first end or failure that the sink accepts closes the span of its run. A run map and the store
behind its recorder therefore agree on what is open, and no span is closed twice.
-/

namespace StoryTrace

/-- The runs of a map and the spans of a store are the same, and are open together. -/
structure RunMap.Matches (m : RunMap) (store : Store) : Prop where
  spanOf : ∀ run, (m.find? run).isSome → ∃! span, span ∈ store.spans ∧ m.spanId? run = some span.id
  runOf : ∀ span ∈ store.spans, ∃! run, m.spanId? run = some span.id
  isOpen : ∀ run, ∀ span ∈ store.spans, m.spanId? run = some span.id → span.isOpen = m.isOpen run
  size : m.size = store.spans.length
  openCount : m.openCount = store.spans.countP (·.isOpen)
  orphans : store.orphans = 0

theorem RunMap.Matches.of_unflushed {m : RunMap} {store : Store} (h : m.Matches store.unflushed) :
    m.Matches store :=
  ⟨h.spanOf, h.runOf, h.isOpen, h.size, h.openCount, h.orphans⟩

/-- The value shows what a run has produced: its texts in one list, its documents with their number,
or the value that it gives. -/
inductive RunOutput.ShownAs : RunOutput → Json → Prop
  | generations (texts : List (List String)) (usage : Option Usage) :
      ShownAs (.generations texts usage) (.array (texts.flatten.map .string))
  | documents (documents : List Document) :
      ShownAs (.documents documents) (.object [("count", .number (.int documents.length)),
        ("documents", .array (documents.map fun d =>
          .object [("metadata", .object d.metadata), ("page_content", .string d.content)]))])
  | value (value : Json) : ShownAs (.value value) value

theorem RunOutput.shownAs_payload (output : RunOutput) : output.ShownAs output.payload := by
  cases output with
  | generations texts usage => exact .generations texts usage
  | documents ds => exact .documents ds
  | value v => exact .value v

/-- The span shows what the notice has told. -/
def Notice.Settles : Notice → Span → Prop
  | .started _, _ => False
  | .ended _ output, s =>
    s.status = .succeeded ∧ s.level = .standard ∧
      ∃ shown, s.output = some shown ∧ output.ShownAs shown
  | .failed _ error, s =>
    s.status = .failed error.message error.kind ∧ s.level = .error ∧
      s.output = some (.object [("error", .string error.message),
        ("error_type", (error.kind.map Json.string).getD .null)])

theorem Notice.settles_closedBy {n : Notice} {run : RunId}
    {closure : ClosedRun → Instant → Closure} (ends : n.ending? = some (run, closure))
    (taken : ClosedRun) (now : Instant) (type : SpanType) (span : Span) :
    n.Settles (span.closedBy ((closure taken now).withType type)) := by
  cases n with
  | started _ => cases ends
  | ended _ output =>
      cases ends
      exact ⟨rfl, rfl, output.payload, rfl, output.shownAs_payload⟩
  | failed _ error =>
      cases ends
      exact ⟨rfl, rfl, rfl⟩

namespace Recorder

variable {σ : Type} {r : Recorder} {lives lives' : List RunLife}
  {s s' : Session RunMap (Watched σ)}

theorem Mirrors.matches (h : Mirrors lives s) (hHolds : s.state.Holds lives) :
    s.state.Matches s.sink.store where
  spanOf run hKnown := by
    obtain ⟨l, hl, hRun⟩ := hHolds.exists_of_find? hKnown
    have hId : s.state.spanId? run = some l.current.id :=
      hHolds.spanId?_eq_some_iff.2 ⟨l, hl, hRun, l.id_current.symm⟩
    refine ⟨l.current, ⟨?_, hId⟩, ?_⟩
    · rw [h.spans]
      exact List.mem_map_of_mem hl
    · intro other hOther
      obtain ⟨hMem, hOtherId⟩ := hOther
      rw [h.spans] at hMem
      obtain ⟨k, hk, rfl⟩ := List.mem_map.1 hMem
      rw [hId, RunLife.id_current, RunLife.id_current] at hOtherId
      rw [List.inj_on_of_nodup_map h.ids hl hk (Option.some.inj hOtherId)]
  runOf span hSpan := by
    rw [h.spans] at hSpan
    obtain ⟨l, hl, rfl⟩ := List.mem_map.1 hSpan
    refine ⟨l.run, hHolds.spanId?_eq_some_iff.2 ⟨l, hl, rfl, l.id_current.symm⟩, ?_⟩
    intro run hRun
    obtain ⟨k, hk, rfl, hId⟩ := hHolds.spanId?_eq_some_iff.1 hRun
    rw [RunLife.id_current] at hId
    rw [List.inj_on_of_nodup_map h.ids hk hl hId]
  isOpen run span hSpan hRun := by
    rw [h.spans] at hSpan
    obtain ⟨l, hl, rfl⟩ := List.mem_map.1 hSpan
    obtain ⟨k, hk, rfl, hId⟩ := hHolds.spanId?_eq_some_iff.1 hRun
    rw [RunLife.id_current] at hId
    obtain rfl := List.inj_on_of_nodup_map h.ids hk hl hId
    rw [h.isOpen_current hk, hHolds.isOpen_of_mem hk]
  size := by
    rw [hHolds.size_eq, h.spans, List.length_map]
  openCount := by
    rw [hHolds.openCount_eq, h.spans, List.countP_map]
    exact List.countP_congr fun l hl => by simp [h.isOpen_current hl]
  orphans := h.orphans

/-- The accepted closures are about different spans. -/
theorem Mirrors.nodup_acceptedClosures (h : Mirrors lives s) :
    (s.sink.acceptedClosures.map (·.spanId)).Nodup := by
  have hIds : (lives.filterMap (·.closure)).map (·.spanId) =
      (lives.filter (·.closure.isSome)).map (·.span.id) := by
    have hEnded := h.ended
    clear h
    induction lives with
    | nil => rfl
    | cons l rest ih =>
        have hRest := ih fun k hk => hEnded k (List.mem_cons_of_mem _ hk)
        cases hClosure : l.closure with
        | none => simp [hClosure, hRest]
        | some c =>
            have hId := (hEnded l (List.mem_cons_self ..) c hClosure).1
            simp [hClosure, hRest, hId]
  rw [(h.closures.map _).nodup_iff, hIds]
  exact h.ids.sublist (List.filter_sublist.map _)

theorem Mirrors.run_of_acceptedClosure (h : Mirrors lives s) (hHolds : s.state.Holds lives)
    {c : Closure} (hc : c ∈ s.sink.acceptedClosures) :
    ∃ run, s.state.spanId? run = some c.spanId := by
  obtain ⟨l, hl, hClosure⟩ := List.mem_filterMap.1 (h.closures.mem_iff.1 hc)
  have hId := (h.ended l hl c hClosure).1
  exact ⟨l.run, hHolds.spanId?_eq_some_iff.2 ⟨l, hl, rfl, hId.symm⟩⟩

/-! ## What the ends have told -/

/-- The closed lives are those that were ended, and their spans show what the ends have told. -/
structure Told (history : List Exchange) (lives : List RunLife) : Prop where
  ended : (history.filterMap Exchange.ended?).Perm
    (lives.filterMap fun l => l.closure.map fun _ => l.run)
  settled : ∀ x ∈ history, ∀ run, x.ended? = some run →
    ∃ l ∈ lives, l.run = run ∧ ∃ c, l.closure = some c ∧ x.notice.Settles (l.span.closedBy c)

section

variable {history : List Exchange} (h : Told history lives) (hHolds : s.state.Holds lives)
include h hHolds

/-- No run is ended twice. -/
theorem Told.nodup_ended : (history.filterMap Exchange.ended?).Nodup := by
  have hRuns : (lives.filterMap fun l => l.closure.map fun _ => l.run).Sublist
      (lives.map RunLife.run) := by
    clear h hHolds
    induction lives with
    | nil => exact List.Sublist.slnil
    | cons l rest ih =>
        cases hClosure : l.closure with
        | none => simpa [hClosure] using ih.cons l.run
        | some c => simpa [hClosure] using ih
  rw [h.ended.nodup_iff]
  exact hHolds.distinct.sublist hRuns

theorem Told.mem_ended_iff {run : RunId} :
    run ∈ history.filterMap Exchange.ended? ↔
      (s.state.find? run).isSome ∧ s.state.isOpen run = false := by
  rw [h.ended.mem_iff, List.mem_filterMap]
  constructor
  · rintro ⟨l, hl, hClosed⟩
    obtain ⟨c, hc, rfl⟩ := Option.map_eq_some_iff.1 hClosed
    rw [hHolds.find?_of_mem hl, hHolds.isOpen_of_mem hl, hc]
    exact ⟨rfl, rfl⟩
  · rintro ⟨hKnown, hShut⟩
    obtain ⟨l, hl, rfl⟩ := hHolds.exists_of_find? hKnown
    rw [hHolds.isOpen_of_mem hl, Option.isNone_eq_false_iff, Option.isSome_iff_exists] at hShut
    obtain ⟨c, hc⟩ := hShut
    exact ⟨l, hl, by rw [hc]; rfl⟩

end

theorem told_nil : Told [] [] := by
  refine ⟨List.Perm.refl _, ?_⟩
  intro x hx
  cases hx

/-- An exchange that ends nothing leaves what was told before. -/
theorem Told.append_of_not_ended {history : List Exchange} (h : Told history lives)
    {x : Exchange} (noEnd : x.ended? = none)
    (hMap : (lives'.filterMap fun l => l.closure.map fun _ => l.run) =
      lives.filterMap fun l => l.closure.map fun _ => l.run)
    (hMem : ∀ l ∈ lives, l ∈ lives') : Told (history ++ [x]) lives' where
  ended := by
    rw [List.filterMap_append, List.filterMap_cons_none noEnd, hMap]
    simpa using h.ended
  settled y hy run hRun := by
    rcases List.mem_append.1 hy with hOld | hLast
    · obtain ⟨l, hl, hRest⟩ := h.settled y hOld run hRun
      exact ⟨l, hMem l hl, hRest⟩
    · obtain rfl := List.mem_singleton.1 hLast
      rw [noEnd] at hRun
      cases hRun

theorem Turn.told {history : List Exchange} {x : Exchange}
    (hTurn : Turn r lives s x lives' s') (hHolds : s.state.Holds lives)
    (h : Told history lives) : Told (history ++ [x]) lives' := by
  cases hTurn with
  | quiet _ noEnd _ _ => exact h.append_of_not_ended noEnd rfl fun l hl => hl
  | opened _ noEnd _ _ _ _ =>
      refine h.append_of_not_ended noEnd ?_ fun l hl => List.mem_append_left _ hl
      simp
  | @closed l closure now c sink supply _ hEnd hl isOpen ends hClosure _ =>
      have hDistinct := hHolds.distinct
      refine ⟨?ended, ?settled⟩
      case ended =>
        have hPerm := RunLife.filterMap_endedBy_perm hDistinct hl c
          (f := fun k => k.closure.map fun _ => k.run) (by simp [isOpen])
        have hOld := h.ended.append_right [l.run]
        rw [List.filterMap_append, List.filterMap_cons_some hEnd]
        refine hOld.trans (List.Perm.trans ?_ hPerm.symm)
        simp [RunLife.endedBy, RunLife.run]
      case settled =>
        intro y hy run hRun
        rcases List.mem_append.1 hy with hOld | hLast
        · obtain ⟨k, hk, hkRun, d, hd, hSettles⟩ := h.settled y hOld run hRun
          have hOther : k.run ≠ l.run := by
            intro hEq
            rw [List.inj_on_of_nodup_map hDistinct hk hl hEq, isOpen] at hd
            cases hd
          have hKeeps : RunLife.endedBy l.run c k = k := by
            simp [RunLife.endedBy, hOther]
          exact ⟨k, hKeeps ▸ List.mem_map_of_mem hk, hkRun, d, hd, hSettles⟩
        · obtain rfl := List.mem_singleton.1 hLast
          rw [hEnd] at hRun
          refine ⟨RunLife.endedBy l.run c l, List.mem_map_of_mem hl, ?_, c, ?_, ?_⟩
          · rw [RunLife.run_endedBy]
            exact Option.some.inj hRun
          · simp [RunLife.endedBy]
          · rw [RunLife.span_endedBy, hClosure]
            exact Notice.settles_closedBy ends _ _ _ _

/-! ## How an end is answered -/

/-- How the end or the failure of a run is answered: with the answer of the sink if the run is
open, and otherwise without asking the sink. -/
structure EndAnswered [Sink σ] (run : RunId) (s : Session RunMap (Watched σ)) (x : Exchange)
    (s' : Session RunMap (Watched σ)) : Prop where
  accepted : x.answer = .finished (.ok true) ↔ ∃ c, x.handovers = [⟨.endSpan c, none⟩]
  idle : x.answer = .finished (.ok false) ↔ s.state.isOpen run = false
  refused : ∀ e, x.answer = .finished (.error e) ↔ ∃ c, x.handovers = [⟨.endSpan c, some e⟩]
  silent : s.state.isOpen run = false → x.handovers = [] ∧ s' = s
  offered : s.state.isOpen run = true → ∃ c, s.state.spanId? run = some c.spanId ∧
    x.handovers = [.ofAnswer (.endSpan c) (Sink.send (.endSpan c) s.sink.sink).1]
  closed : x.answer = .finished (.ok true) → s'.state.isOpen run = false
  stillOpen : ∀ e, x.answer = .finished (.error e) →
    s'.state = s.state ∧ s'.state.isOpen run = true

theorem isOpen_of_find? {run : RunId} {taken : ClosedRun} (known : s.state.find? run =
    some ⟨taken.traceId, some ⟨taken.spanId, taken.type, true⟩⟩) :
    s.state.isOpen run = true ∧ s.state.spanId? run = some taken.spanId := by
  simp [RunMap.isOpen, RunMap.spanId?, RunMap.span?, known, RunEntry.isOpen]

/-- The closure of an open run is offered to the sink, and its answer is noted. -/
theorem offered_of_send [Sink σ] {n : Notice} {run : RunId}
    {closure : ClosedRun → Instant → Closure} {taken : ClosedRun} {now : Instant}
    {answer : Except SinkError Unit} {sink : σ} (ends : n.ending? = some (run, closure))
    (known : s.state.find? run = some ⟨taken.traceId, some ⟨taken.spanId, taken.type, true⟩⟩)
    (sent : Sink.send (.endSpan ((closure taken now).withType taken.type)) s.sink.sink =
      (answer, sink)) :
    ∃ c, s.state.spanId? run = some c.spanId ∧
      [Handover.ofAnswer (.endSpan ((closure taken now).withType taken.type)) answer] =
        [.ofAnswer (.endSpan c) (Sink.send (.endSpan c) s.sink.sink).1] := by
  have hNames : (closure taken now).spanId = taken.spanId := (closure_of_ending ends taken now).2.1
  refine ⟨(closure taken now).withType taken.type, ?_, ?_⟩
  · rw [(isOpen_of_find? known).2]
    exact congrArg some hNames.symm
  · rw [sent]

theorem Step.endAnswered [Sink σ] {x : Exchange} {run : RunId}
    {closure : ClosedRun → Instant → Closure} (h : Step r s x s')
    (ends : x.notice.ending? = some (run, closure)) : EndAnswered run s x s' := by
  cases h with
  | again _ => cases ends
  | traceRefused _ _ _ => cases ends
  | spanRefused _ _ => cases ends
  | opened _ _ => cases ends
  | idle ends' shut =>
      obtain ⟨rfl, rfl⟩ := Prod.mk.inj (Option.some.inj (ends.symm.trans ends'))
      constructor <;> simp [shut]
  | @closeRefused n _ _ taken e now sink supply ends' known sent uses =>
      obtain ⟨rfl, rfl⟩ := Prod.mk.inj (Option.some.inj (ends.symm.trans ends'))
      have hIs := (isOpen_of_find? known).1
      exact {
        accepted := by simp
        idle := by simp [hIs]
        refused := fun other => by simp [eq_comm]
        silent := by simp [hIs]
        offered := fun _ => offered_of_send ends' known sent
        closed := by simp
        stillOpen := fun _ _ => ⟨rfl, hIs⟩ }
  | @closed n _ _ taken now sink supply ends' known sent uses =>
      obtain ⟨rfl, rfl⟩ := Prod.mk.inj (Option.some.inj (ends.symm.trans ends'))
      have hIs := (isOpen_of_find? known).1
      exact {
        accepted := by simp
        idle := by simp [hIs]
        refused := by simp
        silent := by simp [hIs]
        offered := fun _ => offered_of_send ends' known sent
        closed := fun _ => by
          simp [RunMap.isOpen, RunMap.setOpen, RunMap.find?_update, known, RunEntry.isOpen]
        stillOpen := by simp }

section

variable {supply : Supply} {notices : List Notice} {history : List Exchange}

theorem lives_told [Sink σ] {sink : σ} (hFresh : supply.Fresh)
    (hRun : r.attendAll notices (session sink supply) = (history, s)) :
    ∃ lives, s.state.Holds lives ∧ Mirrors lives s ∧ Told history lives :=
  ⟨_, lives_attendAll (motive := fun history lives s => Mirrors lives s ∧ Told history lives)
    (fun hHolds h hTurn => ⟨h.1.turn hHolds hTurn, hTurn.told hHolds h.2⟩)
    ⟨.start hFresh, told_nil⟩ hRun⟩

/-- The span of a run that has ended shows what the end has told. -/
theorem Told.settles (h : Told history lives) (hHolds : s.state.Holds lives)
    (hMirrors : Mirrors lives s) {x : Exchange} (hx : x ∈ history) {run : RunId}
    (hEnd : x.ended? = some run) {span : Span} (hSpan : span ∈ s.sink.store.spans)
    (hId : s.state.spanId? run = some span.id) : x.notice.Settles span := by
  obtain ⟨l, hl, rfl, c, hClosure, hSettles⟩ := h.settled x hx run hEnd
  obtain ⟨k, hk, hRunEq, hIdEq⟩ := hHolds.spanId?_eq_some_iff.1 hId
  obtain rfl := List.inj_on_of_nodup_map hHolds.distinct hk hl hRunEq
  rw [hMirrors.spans] at hSpan
  obtain ⟨m, hm, rfl⟩ := List.mem_map.1 hSpan
  rw [RunLife.id_current] at hIdEq
  obtain rfl := List.inj_on_of_nodup_map hMirrors.ids hk hm hIdEq
  rw [hMirrors.current_of_closed hk hClosure]
  exact hSettles

/-- A store that refuses calls holds, behind its gate, the span of each run as it was told. -/
theorem matches_behind_gate (refusals : SinkCall → Nat) {s : Session RunMap (Watched Gate)}
    (hFresh : supply.Fresh)
    (hRun : r.attendAll notices (session ⟨.empty, refusals⟩ supply) = (history, s)) :
    s.state.Matches s.sink.sink.store ∧
    ∀ x ∈ history, ∀ run, x.ended? = some run → ∀ span ∈ s.sink.sink.store.spans,
      s.state.spanId? run = some span.id → x.notice.Settles span := by
  obtain ⟨lives, hHolds, hMirrors, hTold⟩ := lives_told hFresh hRun
  have hAgrees : s.sink.sink.store.unflushed = s.sink.store := by
    have h := gateAgrees_attendAll r refusals supply notices
    rwa [hRun] at h
  have hSpans : s.sink.sink.store.spans = s.sink.store.spans := by
    rw [← hAgrees]
    rfl
  constructor
  · apply RunMap.Matches.of_unflushed
    rw [hAgrees]
    exact hMirrors.matches hHolds
  · intro x hx run hEnd span hSpan hId
    rw [hSpans] at hSpan
    exact hTold.settles hHolds hMirrors hx hEnd hSpan hId

end

/-- Whatever the sink refuses, the run map and the store agree, no span is closed twice, the end
that was accepted decides what the span shows, and every end is answered as the sink answers. All
this is so of a store that refuses calls itself, and not only of what the accepted writes make. -/
theorem runs_closed_once [Sink σ] (r : Recorder) (sink : σ) {supply : Supply}
    (hFresh : supply.Fresh) {notices : List Notice} {history : List Exchange}
    {s : Session RunMap (Watched σ)}
    (hRun : r.attendAll notices (session sink supply) = (history, s)) :
    s.state.Matches s.sink.store ∧
    ((s.sink.acceptedClosures.map (·.spanId)).Nodup ∧
      ∀ c ∈ s.sink.acceptedClosures, ∃ run, s.state.spanId? run = some c.spanId) ∧
    ((history.filterMap Exchange.ended?).Nodup ∧
      ∀ run, run ∈ history.filterMap Exchange.ended? ↔
        (s.state.find? run).isSome ∧ s.state.isOpen run = false) ∧
    (∀ x ∈ history, ∀ run, x.ended? = some run → ∀ span ∈ s.sink.store.spans,
      s.state.spanId? run = some span.id → x.notice.Settles span) ∧
    ((∀ run output, EndAnswered run s (r.attend (.ended run output) s).1
        (r.attend (.ended run output) s).2) ∧
      ∀ run error, EndAnswered run s (r.attend (.failed run error) s).1
        (r.attend (.failed run error) s).2) ∧
    ∀ refusals history' t,
      r.attendAll notices (session (σ := Gate) ⟨.empty, refusals⟩ supply) = (history', t) →
        t.state.Matches t.sink.sink.store ∧
        ∀ x ∈ history', ∀ run, x.ended? = some run → ∀ span ∈ t.sink.sink.store.spans,
          t.state.spanId? run = some span.id → x.notice.Settles span := by
  obtain ⟨lives, hHolds, hMirrors, hTold⟩ := lives_told hFresh hRun
  refine ⟨hMirrors.matches hHolds, ⟨hMirrors.nodup_acceptedClosures, ?_⟩, ⟨?nodup, ?ended⟩,
    ?settled, ⟨fun run output => ?ends, fun run error => ?failures⟩, ?gate⟩
  · exact fun c hc => hMirrors.run_of_acceptedClosure hHolds hc
  case nodup => exact hTold.nodup_ended hHolds
  case ended => exact fun run => hTold.mem_ended_iff hHolds
  case settled =>
    intro x hx run hEnd span hSpan hId
    exact hTold.settles hHolds hMirrors hx hEnd hSpan hId
  case ends => exact (step_attend hHolds.settled (.ended run output)).endAnswered rfl
  case failures => exact (step_attend hHolds.settled (.failed run error)).endAnswered rfl
  case gate =>
    intro refusals history' t hGate
    exact matches_behind_gate refusals hFresh hGate

/-- A run whose end is refused once, and which fails before it ends again, and a run below it that
answers with two texts. -/
def failedAfterRefusal : List Exchange × Session RunMap (Watched Gate) :=
  (Recorder.mk "story" none .perRun false).attendAll
    [.started (.new "plan" .chain (.text "goal")),
      .ended "plan" (.value (.string "a plan")),
      .started { RunStart.new "ask" .completion (.prompts ["who"]) with parent := some "plan" },
      .ended "ask" (.generations [["Ada"], ["Bo"]] none),
      .failed "plan" ⟨"out of time", some "Timeout"⟩,
      .ended "plan" (.value (.string "a plan"))]
    (session ⟨.empty, fun call => if call = .endSpan then 1 else 0⟩ (.counting ⟨0, 0⟩))

theorem runs_closed_once_failedAfterRefusal :
    (Supply.counting ⟨0, 0⟩).Fresh ∧
    failedAfterRefusal.1.filterMap Exchange.ended? = ["ask", "plan"] ∧
    (failedAfterRefusal.1.map (·.handovers.length)) = [2, 1, 1, 1, 1, 0] ∧
    (failedAfterRefusal.2.sink.sink.store.spans.map fun span =>
      ((span.output.bind (·.field? "error")).bind Json.string?, span.output.bind Json.strings?)) =
        [(some "out of time", none), (none, some ["Ada", "Bo"])] ∧
    failedAfterRefusal.2.state.Matches failedAfterRefusal.2.sink.store ∧
    failedAfterRefusal.2.state.Matches failedAfterRefusal.2.sink.sink.store ∧
    EndAnswered "plan" failedAfterRefusal.2
      ((Recorder.mk "story" none .perRun false).attend (.ended "plan" (.value .null))
        failedAfterRefusal.2).1
      ((Recorder.mk "story" none .perRun false).attend (.ended "plan" (.value .null))
        failedAfterRefusal.2).2 := by
  have hFresh := Supply.fresh_counting ⟨0, 0⟩
  have hRun := (Prod.eta failedAfterRefusal).symm
  obtain ⟨hMatches, -, -, -, ⟨hEnds, -⟩, hGate⟩ :=
    runs_closed_once ⟨"story", none, .perRun, false⟩ _ hFresh hRun
  refine ⟨hFresh, by decide +kernel, by decide +kernel, by decide +kernel, hMatches, ?gate, ?answer⟩
  case gate => exact (hGate _ _ _ hRun).1
  case answer => exact hEnds "plan" (.value .null)

end Recorder

end StoryTrace
