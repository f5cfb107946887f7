import StoryTrace.Proofs.Run.Chronicle
import StoryTrace.Proofs.Run.Nesting
import StoryTrace.Proofs.Run.Order
import StoryTrace.Proofs.Run.Starts
import StoryTrace.Proofs.Sink.Gate

/-!
# Portraits of runs

The portrait of a run is its span under the id of the run, in a trace that is named by its first
run, and without times. Over a sink that refuses nothing a recorder does what the chronicle of the
notices tells: the portraits of the runs are the spans of the chronicle.
-/

namespace StoryTrace

/-- The span under other names, and without its times. -/
def Span.renamed (run trace : String → String) (s : Span) : Span :=
  { s with
    id := run s.id
    traceId := trace s.traceId
    parentId := s.parentId.map run
    startedAt := Chronicle.someTime
    endedAt := s.endedAt.map fun _ => Chronicle.someTime }

@[simp] theorem Span.isOpen_renamed (run trace : String → String) (s : Span) :
    (s.renamed run trace).isOpen = s.isOpen := rfl

namespace RunLife

variable {lives : List RunLife}

/-- The run of the span with the given id. -/
def runNamed (lives : List RunLife) (spanId : String) : RunId :=
  ((lives.find? (·.span.id = spanId)).map run).getD ""

/-- The first run in the given trace, or the trace that is fixed for all. -/
def traceNamed (policy : TracePolicy) (lives : List RunLife) (traceId : String) : String :=
  policy.join (((lives.find? (·.span.traceId = traceId)).map run).getD "")

/-- The span of the run as it is now, with the names of runs. -/
def portrait (policy : TracePolicy) (lives : List RunLife) (l : RunLife) : Span :=
  l.current.renamed (runNamed lives) (traceNamed policy lives)

def portraits (policy : TracePolicy) (lives : List RunLife) : List Span :=
  lives.map (portrait policy lives)

/-- A look-up for the key of a life finds a life with that key. -/
theorem exists_first (key : RunLife → String) {l : RunLife} (hl : l ∈ lives) :
    ∃ first ∈ lives, key first = key l ∧ lives.find? (key · = key l) = some first := by
  have hFound : (lives.find? (key · = key l)).isSome := by
    rw [List.find?_isSome]
    exact ⟨l, hl, decide_eq_true rfl⟩
  obtain ⟨first, hFirst⟩ := Option.isSome_iff_exists.1 hFound
  exact ⟨first, List.mem_of_find?_eq_some hFirst, of_decide_eq_true (List.find?_some hFirst :),
    hFirst⟩

theorem runNamed_of_mem (ids : (lives.map (·.span.id)).Nodup) {l : RunLife} (hl : l ∈ lives) :
    runNamed lives l.span.id = l.run := by
  obtain ⟨first, hMem, hId, hFirst⟩ := exists_first (·.span.id) hl
  rw [runNamed, hFirst, List.inj_on_of_nodup_map ids hMem hl hId]
  rfl

theorem runNamed_append {l : RunLife} (hl : l ∈ lives) (more : List RunLife) :
    runNamed (lives ++ more) l.span.id = runNamed lives l.span.id := by
  obtain ⟨first, -, -, hFirst⟩ := exists_first (·.span.id) hl
  rw [runNamed, List.find?_append, hFirst, Option.some_or, runNamed, hFirst]

theorem traceNamed_append (policy : TracePolicy) {l : RunLife} (hl : l ∈ lives)
    (more : List RunLife) :
    traceNamed policy (lives ++ more) l.span.traceId = traceNamed policy lives l.span.traceId := by
  obtain ⟨first, -, -, hFirst⟩ := exists_first (·.span.traceId) hl
  rw [traceNamed, List.find?_append, hFirst, Option.some_or, traceNamed, hFirst]

/-- A new trace is named by its first run. -/
theorem traceNamed_append_of_new (policy : TracePolicy) {new : RunLife}
    (hNew : ∀ l ∈ lives, l.span.traceId ≠ new.span.traceId) :
    traceNamed policy (lives ++ [new]) new.span.traceId = policy.join new.run := by
  have hOthers : lives.find? (·.span.traceId = new.span.traceId) = none := by
    simpa [List.find?_eq_none] using hNew
  rw [traceNamed, List.find?_append, hOthers]
  simp

/-- All runs are in the trace that is fixed, if one is. -/
def InFixedTrace (policy : TracePolicy) (lives : List RunLife) : Prop :=
  ∀ id, policy = .fixed id → ∀ l ∈ lives, l.span.traceId = id

/-- Traces are told apart by their names. -/
theorem traceNamed_eq_iff {policy : TracePolicy} (distinct : (lives.map run).Nodup)
    (hFixed : InFixedTrace policy lives) {a b : RunLife} (ha : a ∈ lives) (hb : b ∈ lives) :
    traceNamed policy lives a.span.traceId = traceNamed policy lives b.span.traceId ↔
      a.span.traceId = b.span.traceId := by
  constructor
  · intro hNames
    cases hPolicy : policy with
    | fixed id => rw [hFixed id hPolicy a ha, hFixed id hPolicy b hb]
    | perRun =>
        obtain ⟨firstA, hMemA, hTraceA, hFirstA⟩ := exists_first (·.span.traceId) ha
        obtain ⟨firstB, hMemB, hTraceB, hFirstB⟩ := exists_first (·.span.traceId) hb
        rw [traceNamed, traceNamed, hFirstA, hFirstB, hPolicy] at hNames
        have hSame : firstA = firstB := List.inj_on_of_nodup_map distinct hMemA hMemB hNames
        rw [← hTraceA, ← hTraceB, hSame]
  · intro hTraces
    rw [hTraces]

/-! ## Portraits of the lives -/

variable {policy : TracePolicy}

theorem id_portrait (ids : (lives.map (·.span.id)).Nodup) {l : RunLife} (hl : l ∈ lives) :
    (portrait policy lives l).id = l.run := by
  rw [portrait, Span.renamed, id_current]
  exact runNamed_of_mem ids hl

/-- A new life changes no portrait. -/
theorem portrait_append (h : Nested lives) {l : RunLife} (hl : l ∈ lives) (more : List RunLife) :
    portrait policy (lives ++ more) l = portrait policy lives l := by
  have hParent : l.span.parentId.map (runNamed (lives ++ more)) =
      l.span.parentId.map (runNamed lives) := by
    cases hNamed : l.span.parentId with
    | none => rfl
    | some parent =>
        obtain ⟨p, hPart, rfl⟩ := h.exists_partOf hl hNamed
        exact congrArg some (runNamed_append hPart.mem_parent more)
  simp only [portrait, Span.renamed, id_current, traceId_current, parentId_current,
    runNamed_append hl, traceNamed_append policy hl, hParent]

theorem portraits_append_singleton (h : Nested lives) (new : RunLife) :
    portraits policy (lives ++ [new]) =
      portraits policy lives ++ [portrait policy (lives ++ [new]) new] := by
  rw [portraits, List.map_append, List.map_congr_left fun l hl => portrait_append h hl [new]]
  rfl

theorem portraits_map_endedBy (run : RunId) (c : Closure) :
    portraits policy (lives.map (endedBy run c)) =
      lives.map fun l =>
        (endedBy run c l).current.renamed (runNamed lives) (traceNamed policy lives) := by
  have hRuns : runNamed (lives.map (endedBy run c)) = runNamed lives := by
    funext id
    simp only [runNamed, List.find?_map, Option.map_map, Function.comp_def, span_endedBy,
      run_endedBy]
  have hTraces : traceNamed policy (lives.map (endedBy run c)) = traceNamed policy lives := by
    funext id
    simp only [traceNamed, List.find?_map, Option.map_map, Function.comp_def, span_endedBy,
      run_endedBy]
  rw [portraits, List.map_map]
  simp only [Function.comp_def, portrait, hRuns, hTraces]

theorem knows_portraits (ids : (lives.map (·.span.id)).Nodup) (run : RunId) :
    Chronicle.knows (portraits policy lives) run = true ↔ ∃ l ∈ lives, l.run = run := by
  rw [Chronicle.knows, portraits, List.any_map, List.any_eq_true]
  refine exists_congr fun l => and_congr_right fun hl => ?_
  rw [Function.comp_apply, id_portrait ids hl, beq_iff_eq]

theorem hasOpen_portraits (ids : (lives.map (·.span.id)).Nodup)
    (hOpen : ∀ l ∈ lives, l.current.isOpen = l.closure.isNone) (run : RunId) :
    Chronicle.hasOpen (portraits policy lives) run = true ↔
      ∃ l ∈ lives, l.run = run ∧ l.closure = none := by
  rw [Chronicle.hasOpen, portraits, List.any_map, List.any_eq_true]
  refine exists_congr fun l => and_congr_right fun hl => ?_
  rw [Function.comp_apply, id_portrait ids hl, Bool.and_eq_true, beq_iff_eq, portrait,
    Span.isOpen_renamed, hOpen l hl, Option.isNone_iff_eq_none]

theorem parentAmong_portraits (ids : (lives.map (·.span.id)).Nodup) (x : RunStart) :
    Chronicle.parentAmong (portraits policy lives) x =
      (parentAmong lives x).map (portrait policy lives) := by
  unfold Chronicle.parentAmong parentAmong
  cases x.parent with
  | none => rfl
  | some parent =>
      rw [Option.bind_some, Option.bind_some, portraits, List.find?_map]
      refine congrArg (Option.map _) (List.find?_congr fun l hl => ?_)
      rw [Function.comp_apply, id_portrait ids hl]
      exact Bool.beq_eq_decide_eq ..

end RunLife

/-! ## Portraits in a session -/

namespace Recorder

open RunLife (portrait portraits InFixedTrace)

variable {σ : Type} {r : Recorder} {x : Exchange} {lives lives' : List RunLife}
  {s s' : Session RunMap (Watched σ)}

theorem Turn.inFixedTrace (hTurn : Turn r lives s x lives' s')
    (h : InFixedTrace r.policy lives) : InFixedTrace r.policy lives' := by
  intro id hPolicy l hl
  cases hTurn with
  | quiet _ _ _ _ => exact h id hPolicy l hl
  | @opened start span now noted sink supply _ _ _ hSpan _ _ =>
      rcases List.mem_append.1 hl with hOld | hLast
      · exact h id hPolicy l hOld
      · obtain rfl := List.mem_singleton.1 hLast
        simp only [hSpan, spanOf, Span.new]
        cases hFound : RunLife.parentAmong lives start with
        | none => simp [hPolicy, TracePolicy.join]
        | some p => exact h id hPolicy p (RunLife.parentAmong_mem hFound).1
  | closed _ _ _ _ _ _ _ =>
      obtain ⟨other, hOther, rfl⟩ := List.mem_map.1 hl
      rw [RunLife.span_endedBy]
      exact h id hPolicy other hOther

/-- What is known of the lives and the session after any notices. -/
structure Lived (r : Recorder) (lives : List RunLife) (s : Session RunMap (Watched σ)) :
    Prop where
  mirrors : Mirrors lives s
  nested : RunLife.Nested lives
  inFixedTrace : InFixedTrace r.policy lives
  ownTraces : r.policy = .perRun → OwnTraces lives s

theorem Turn.lived (hTurn : Turn r lives s x lives' s') (hHolds : s.state.Holds lives)
    (h : Lived r lives s) : Lived r lives' s' where
  mirrors := h.mirrors.turn hHolds hTurn
  nested := hTurn.nested h.nested
  inFixedTrace := hTurn.inFixedTrace h.inFixedTrace
  ownTraces hPolicy := hTurn.ownTraces hPolicy (h.ownTraces hPolicy)

theorem lived_session (r : Recorder) (sink : σ) {supply : Supply} (hFresh : supply.Fresh) :
    Lived r [] (session sink supply) where
  mirrors := .start hFresh
  nested := RunLife.nested_nil
  inFixedTrace _ _ _ hl := nomatch hl
  ownTraces _ := ⟨hFresh, fun _ hl => (nomatch hl), List.nodup_nil⟩

/-- What is not refused is answered as the chronicle tells. -/
theorem Step.written [Sink σ] (h : Step r s x s') (hHolds : s.state.Holds lives)
    (hLived : Lived r lives s) (hAccepted : ∀ y ∈ x.handovers, y.refusal = none) :
    x.answer.written = .ok (Chronicle.writes (portraits r.policy lives) x.notice) := by
  have hKnows (run : RunId) : Chronicle.knows (portraits r.policy lives) run = true ↔
      ∃ l ∈ lives, l.run = run :=
    RunLife.knows_portraits hLived.mirrors.ids run
  have hOpen (run : RunId) : Chronicle.hasOpen (portraits r.policy lives) run = true ↔
      ∃ l ∈ lives, l.run = run ∧ l.closure = none :=
    RunLife.hasOpen_portraits hLived.mirrors.ids (fun l hl => hLived.mirrors.isOpen_current hl) run
  have hRefused {y : Handover} {e : SinkError} (hy : y ∈ x.handovers)
      (hRefusal : y.refusal = some e) : False := by
    rw [hAccepted y hy] at hRefusal
    cases hRefusal
  cases h with
  | @again start id known =>
      obtain ⟨l, hl, hRun, -⟩ := hHolds.spanId?_eq_some_iff.1 known
      have hKnown : Chronicle.knows (portraits r.policy lives) start.run = true :=
        (hKnows _).2 ⟨l, hl, hRun⟩
      rw [Chronicle.writes, hKnown]
      rfl
  | @opened start now later sink supply unknown uses =>
      have hNew : Chronicle.knows (portraits r.policy lives) start.run = false := by
        rw [Bool.eq_false_iff, ne_eq, hKnows]
        rintro ⟨l, hl, hRun⟩
        exact hHolds.find?_eq_none_iff_forall.1 unknown l hl hRun
      rw [Chronicle.writes, hNew]
      rfl
  | @idle n run closure ends shut =>
      have hShut : Chronicle.hasOpen (portraits r.policy lives) run = false := by
        rw [Bool.eq_false_iff, ne_eq, hOpen]
        rintro ⟨l, hl, rfl, hClosure⟩
        rw [hHolds.isOpen_of_mem hl, hClosure] at shut
        cases shut
      rw [Chronicle.writes_of_ending ends, hShut]
      rfl
  | @closed n run closure taken now sink supply ends known sent uses =>
      obtain ⟨l, hl, hRun, hClosure, -⟩ := hHolds.exists_of_open known
      have hIsOpen : Chronicle.hasOpen (portraits r.policy lives) run = true :=
        (hOpen _).2 ⟨l, hl, hRun, hClosure⟩
      rw [Chronicle.writes_of_ending ends, hIsOpen]
      rfl
  | traceRefused _ _ _ => exact (hRefused (List.mem_singleton.2 rfl) rfl).elim
  | spanRefused _ _ =>
      exact (hRefused (List.mem_append_right _ (List.mem_singleton.2 rfl)) rfl).elim
  | closeRefused _ _ _ _ => exact (hRefused (List.mem_singleton.2 rfl) rfl).elim

/-- What was written in an exchange opens a life or ends one. -/
theorem Step.started_or_ended [Sink σ] (h : Step r s x s')
    (hWritten : x.answer.written = .ok true) :
    x.acceptedStart?.isSome = true ∨ x.ended?.isSome = true := by
  cases h with
  | again _ => cases hWritten
  | opened _ _ => exact .inl rfl
  | closed _ _ _ _ => exact .inr rfl
  | idle _ _ => cases hWritten
  | traceRefused _ _ _ => cases hWritten
  | spanRefused _ _ => cases hWritten
  | closeRefused _ _ _ _ => cases hWritten

section Opened

variable {start : RunStart} {span : Span} {now : Instant}
  (hSpan : span = spanOf start (s.supply.ids (s.supply.idsUsed + 1))
    (((RunLife.parentAmong lives start).map (·.span.traceId)).getD
      (r.policy.join (s.supply.ids s.supply.idsUsed)))
    ((RunLife.parentAmong lives start).map (·.span.id)) now)
include hSpan

/-- The parent of a new life is named as the parent in the portraits. -/
theorem map_parentId_opened (h : Lived r lives s) :
    span.parentId.map (RunLife.runNamed (lives ++ [⟨start, span, none⟩])) =
      ((RunLife.parentAmong lives start).map (portrait r.policy lives)).map (·.id) := by
  have hNamed : span.parentId = (RunLife.parentAmong lives start).map (·.span.id) := by
    rw [hSpan]
    rfl
  rw [hNamed]
  cases hFound : RunLife.parentAmong lives start with
  | none => rfl
  | some p =>
      have hp := (RunLife.parentAmong_mem hFound).1
      simp only [Option.map_some, RunLife.id_portrait h.mirrors.ids hp,
        RunLife.runNamed_append hp, RunLife.runNamed_of_mem h.mirrors.ids hp]

/-- A new life is in the trace of its parent, or in one that is named by its run. -/
theorem traceNamed_opened (h : Lived r lives s) :
    RunLife.traceNamed r.policy (lives ++ [⟨start, span, none⟩]) span.traceId =
      (((RunLife.parentAmong lives start).map (portrait r.policy lives)).map (·.traceId)).getD
        (r.policy.join start.run) := by
  have hJoined : span.traceId = ((RunLife.parentAmong lives start).map (·.span.traceId)).getD
      (r.policy.join (s.supply.ids s.supply.idsUsed)) := by
    rw [hSpan]
    rfl
  cases hFound : RunLife.parentAmong lives start with
  | none =>
      rw [hFound] at hJoined
      cases hPolicy : r.policy with
      | fixed id => rfl
      | perRun =>
          -- the id is fresh, so no earlier life is in a trace of that name
          rw [hPolicy] at hJoined
          refine RunLife.traceNamed_append_of_new .perRun fun l hl hSame => ?_
          have hGave := (h.ownTraces hPolicy).gave l hl
          rw [hSame, hJoined] at hGave
          exact h.mirrors.fresh.not_gave 0 hGave
  | some p =>
      have hp := (RunLife.parentAmong_mem hFound).1
      rw [hFound, Option.map_some, Option.getD_some] at hJoined
      rw [hJoined, RunLife.traceNamed_append r.policy hp]
      simp only [Option.map_some, Option.getD_some, portrait, Span.renamed,
        RunLife.traceId_current]

/-- The portrait of a new life is the span that the chronicle tells of it. -/
theorem portrait_opened (h : Lived r lives s)
    (ids : ((lives ++ [RunLife.mk start span none]).map (·.span.id)).Nodup) :
    portrait r.policy (lives ++ [⟨start, span, none⟩]) ⟨start, span, none⟩ =
      Chronicle.spanFor r.policy (portraits r.policy lives) start := by
  have hId := RunLife.runNamed_of_mem ids (List.mem_append_right _ (List.mem_singleton.2 rfl))
  rw [portrait, Chronicle.spanFor, RunLife.parentAmong_portraits h.mirrors.ids]
  simp only [Span.renamed, RunLife.current, hId, map_parentId_opened hSpan h,
    traceNamed_opened hSpan h]
  rw [hSpan]
  rfl

end Opened

/-- What a closure brings to a span does not depend on names and times. -/
theorem renamed_closedBy_of_ending {n : Notice} {ended : RunId}
    {closure : ClosedRun → Instant → Closure} (ends : n.ending? = some (ended, closure))
    (taken : ClosedRun) (now : Instant) (type : SpanType) (run trace : String → String)
    (span : Span) :
    (span.closedBy ((closure taken now).withType type)).renamed run trace =
      (span.renamed run trace).closedBy (closure ⟨"", ended, .span⟩ Chronicle.someTime) := by
  cases n with
  | started _ => cases ends
  | ended _ _ | failed _ _ =>
      cases ends
      rfl

/-- The portrait of an ended life is the portrait that the chronicle closes. -/
theorem portraits_closed (hHolds : s.state.Holds lives) (h : Lived r lives s) {l : RunLife}
    {n : Notice} {closure : ClosedRun → Instant → Closure} {now : Instant} {c : Closure}
    (hl : l ∈ lives) (isOpen : l.closure = none) (ends : n.ending? = some (l.run, closure))
    (hClosure : c = (closure ⟨l.span.traceId, l.span.id, l.span.type⟩ now).withType l.span.type) :
    portraits r.policy (lives.map (RunLife.endedBy l.run c)) =
      Chronicle.spansAfter r.policy (portraits r.policy lives) n := by
  have hTold : (closure ⟨"", l.run, .span⟩ Chronicle.someTime).spanId = l.run :=
    (closure_of_ending ends ⟨"", l.run, .span⟩ Chronicle.someTime).2.1
  have hSent : c.spanId = l.span.id := by
    rw [hClosure]
    exact (closure_of_ending ends ⟨l.span.traceId, l.span.id, l.span.type⟩ now).2.1
  rw [RunLife.portraits_map_endedBy, Chronicle.spansAfter_of_ending ends, portraits, List.map_map]
  apply List.map_congr_left
  intro other hOther
  have hId : (portrait r.policy lives other).id = other.run :=
    RunLife.id_portrait h.mirrors.ids hOther
  rw [Function.comp_apply]
  by_cases hRun : other.run = l.run
  · obtain rfl : other = l := List.inj_on_of_nodup_map hHolds.distinct hOther hl hRun
    have hOpen := h.mirrors.opened other hl
    have hAfter : (RunLife.endedBy other.run c other).current = other.span.closedBy c := by
      rw [RunLife.endedBy, if_pos rfl]
      exact Span.close_of_isOpen hOpen hSent
    have hBefore : portrait r.policy lives other = other.span.renamed (RunLife.runNamed lives)
        (RunLife.traceNamed r.policy lives) := by
      rw [portrait, RunLife.current, isOpen]
    have hPortrait : (portrait r.policy lives other).isOpen = true := by
      rw [hBefore]
      exact hOpen
    rw [Span.close_of_isOpen hPortrait (hTold.trans hId.symm), hAfter, hBefore, hClosure]
    exact renamed_closedBy_of_ending ends _ _ _ _ _ _
  · rw [Span.close_of_ne (by rw [hTold, hId]; exact Ne.symm hRun), RunLife.endedBy, if_neg hRun]
    rfl

/-- The portraits change as the chronicle tells. -/
theorem Turn.portraits (hTurn : Turn r lives s x lives' s') (hHolds : s.state.Holds lives)
    (h : Lived r lives s)
    (hQuiet : x.acceptedStart? = none → x.ended? = none →
      Chronicle.writes (portraits r.policy lives) x.notice = false) :
    portraits r.policy lives' =
      Chronicle.spansAfter r.policy (portraits r.policy lives) x.notice := by
  have ids := (hTurn.lived hHolds h).mirrors.ids
  cases hTurn with
  | quiet noStart noEnd _ _ =>
      exact (Chronicle.spansAfter_of_not_writes r.policy (hQuiet noStart noEnd)).symm
  | @opened start span now noted sink supply starts _ new hSpan _ _ =>
      have hNotice := (exists_answer_of_acceptedStart? starts).1
      have hNew : Chronicle.knows (RunLife.portraits r.policy lives) start.run = false := by
        rw [Bool.eq_false_iff, ne_eq, RunLife.knows_portraits h.mirrors.ids]
        rintro ⟨l, hl, hRun⟩
        exact new l hl hRun
      rw [RunLife.portraits_append_singleton h.nested, portrait_opened hSpan h ids, hNotice,
        Chronicle.spansAfter, hNew]
      rfl
  | closed _ _ hl isOpen ends hClosure _ =>
      exact portraits_closed hHolds h hl isOpen ends hClosure

/-- A history without refusals has the results and the portraits that its chronicle tells. -/
structure Tells (r : Recorder) (notices : List Notice) (history : List Exchange) : Prop where
  results : history.map (fun x => (x.notice.run, x.answer.written)) =
    (Chronicle.ofNotices r.policy notices).results.map fun result => (result.1, .ok result.2)
  spans : portraits r.policy (RunLife.ofHistory history) =
    (Chronicle.ofNotices r.policy notices).spans

theorem Step.tells [Sink σ] {history : List Exchange} {notices : List Notice}
    (hStep : Step r s x s') (hHolds : s.state.Holds (RunLife.ofHistory history))
    (hLived : Lived r (RunLife.ofHistory history) s)
    (hAccepted : ∀ y ∈ x.handovers, y.refusal = none) (h : Tells r notices history) :
    Tells r (notices ++ [x.notice]) (history ++ [x]) := by
  have hWritten := hStep.written hHolds hLived hAccepted
  constructor
  · rw [List.map_append, h.results, Chronicle.ofNotices_append_singleton, Chronicle.record,
      List.map_append, ← h.spans]
    simp [hWritten]
  · rw [RunLife.ofHistory_append_singleton, Chronicle.ofNotices_append_singleton,
      Chronicle.record, ← h.spans]
    refine (hStep.turn hHolds).portraits hHolds hLived fun noStart noEnd => ?_
    rw [Bool.eq_false_iff]
    intro hWrites
    rw [hWrites] at hWritten
    simpa [noStart, noEnd] using hStep.started_or_ended hWritten

section

variable [Sink σ]

theorem map_notice_attendAll (r : Recorder) (notices : List Notice)
    (s : Session RunMap (Watched σ)) : (r.attendAll notices s).1.map (·.notice) = notices := by
  induction notices generalizing s with
  | nil => rfl
  | cons n rest ih =>
      rw [attendAll_cons, List.map_cons, ih]
      rfl

/-- What every step keeps: with the chronicle, as long as nothing is refused. -/
structure Follows (r : Recorder) (history : List Exchange) (s : Session RunMap (Watched σ)) :
    Prop where
  ordered : Ordered history s
  lived : Lived r (RunLife.ofHistory history) s
  tells : (∀ x ∈ history, ∀ y ∈ x.handovers, y.refusal = none) →
    Tells r (history.map (·.notice)) history

theorem Step.follows {history : List Exchange} (hStep : Step r s x s')
    (hHolds : s.state.Holds (RunLife.ofHistory history)) (h : Follows r history s) :
    Follows r (history ++ [x]) s' where
  ordered := hStep.ordered h.ordered
  lived := by
    rw [RunLife.ofHistory_append_singleton]
    exact (hStep.turn hHolds).lived hHolds h.lived
  tells hAccepted := by
    obtain ⟨hBefore, hLast⟩ := List.forall_mem_append.1 hAccepted
    rw [List.map_append]
    exact hStep.tells hHolds h.lived (List.forall_mem_singleton.1 hLast) (h.tells hBefore)

/-- Over a sink that accepts every write a recorder does what the chronicle of the notices tells. -/
theorem tells_attendAll (r : Recorder) {sink : σ} (hAccepts : Sink.AcceptsAll sink)
    {supply : Supply} (hFresh : supply.Fresh) {notices : List Notice} {history : List Exchange}
    {s : Session RunMap (Watched σ)}
    (hRun : r.attendAll notices (session sink supply) = (history, s)) :
    s.state.Holds (RunLife.ofHistory history) ∧ Lived r (RunLife.ofHistory history) s ∧
      Tells r notices history := by
  have hNotices := map_notice_attendAll r notices (session sink supply)
  have hRefusals := refusals_attendAll r hAccepts supply notices
  rw [hRun] at hNotices hRefusals
  obtain ⟨hHolds, hFollows⟩ := steps_attendAll (motive := Follows r)
    (fun hHolds h hStep => hStep.follows hHolds h)
    ⟨ordered_session sink supply, lived_session r sink hFresh, fun _ => ⟨rfl, rfl⟩⟩ hRun
  refine ⟨hHolds, hFollows.lived, hNotices ▸ hFollows.tells fun x hx y hy => hRefusals y ?_⟩
  rw [hFollows.ordered.handovers]
  exact List.mem_flatMap.2 ⟨x, hx, hy⟩

end

end Recorder

end StoryTrace
