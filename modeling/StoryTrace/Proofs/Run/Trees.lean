import StoryTrace.Proofs.Forest
import StoryTrace.Proofs.Run.Nesting

/-!
# Trees of runs

The forest of a trace shows every run of the trace once, below the run that it is part of. If every
top-level run joins a trace of its own, each forest is one tree at most.
-/

namespace StoryTrace

open SpanTree (spansAll)

namespace RunLife

variable {lives : List RunLife} (traceId : String)

/-- The spans of one trace as they are now. -/
def spansIn (lives : List RunLife) (traceId : String) : List Span :=
  (lives.filter (·.span.traceId = traceId)).map current

theorem spansOf_eq_spansIn {store : Store} (h : store.spans = lives.map current) :
    store.spansOf traceId = spansIn lives traceId := by
  rw [Store.spansOf, h, List.filter_map, spansIn]
  refine congrArg (List.map current) (List.filter_congr fun l _ => ?_)
  simp [Bool.beq_eq_decide_eq]

theorem mem_spansIn_iff {u : Span} :
    u ∈ spansIn lives traceId ↔ ∃ l ∈ lives, l.span.traceId = traceId ∧ l.current = u := by
  simp [spansIn, and_assoc]

theorem current_mem_spansIn_iff (ids : (lives.map (·.span.id)).Nodup) {l : RunLife}
    (hl : l ∈ lives) : l.current ∈ spansIn lives traceId ↔ l.span.traceId = traceId := by
  rw [mem_spansIn_iff]
  constructor
  · rintro ⟨other, hOther, hTrace, hEq⟩
    have hId : other.span.id = l.span.id := by
      simpa using congrArg Span.id hEq
    rwa [← List.inj_on_of_nodup_map ids hOther hl hId]
  · exact fun hTrace => ⟨l, hl, hTrace, rfl⟩

theorem nodup_ids_spansIn (ids : (lives.map (·.span.id)).Nodup) :
    ((spansIn lives traceId).map (·.id)).Nodup := by
  rw [spansIn, List.map_map]
  simp only [Function.comp_def, id_current]
  exact ids.sublist (List.filter_sublist.map _)

section Nested

variable (h : Nested lives)
include h

/-- A span follows the span of the run that its own run is part of, in the same trace. -/
theorem Nested.parentsFirst : SpanForest.ParentsFirst (spansIn lives traceId) := by
  intro before u after hSplit parent hNamed
  obtain ⟨first, tail, hFilter, rfl, hTail⟩ := List.map_eq_append_iff.1 hSplit
  obtain ⟨l, rest, rfl, rfl, rfl⟩ := List.map_eq_cons_iff.1 hTail
  obtain ⟨start, more, rfl, rfl, hMore⟩ := List.filter_eq_append_iff.1 hFilter
  obtain ⟨skipped, later, rfl, hSkipped, hTrace, -⟩ := List.filter_eq_cons_iff.1 hMore
  have hLife := h (start ++ skipped) l later (by simp)
  rw [parentId_current, hLife.1] at hNamed
  obtain ⟨p, hp, hId⟩ := Option.map_eq_some_iff.1 hNamed
  have hSame : p.span.traceId = traceId := by
    rw [← hLife.2 p hp]
    simpa using hTrace
  refine ⟨p.current, List.mem_map_of_mem ?_, by rwa [id_current]⟩
  rcases List.mem_append.1 (parentAmong_mem hp).1 with hStart | hElse
  · exact List.mem_filter.2 ⟨hStart, by simpa using hSame⟩
  · exact absurd (by simpa using hSame) (hSkipped p hElse)

/-- The forest of a trace holds the spans of its runs, each once. -/
theorem Nested.spansAll_build_perm :
    (spansAll (SpanForest.build (spansIn lives traceId))).Perm (spansIn lives traceId) :=
  SpanForest.spansAll_build_perm (h.parentsFirst traceId)

variable (ids : (lives.map (·.span.id)).Nodup)
include ids

theorem Nested.nested_current {l : RunLife} (hl : l ∈ lives) (hTrace : l.span.traceId = traceId) :
    SpanForest.nested (spansIn lives traceId) l.current = l.span.parentId.isSome := by
  cases hNamed : l.span.parentId with
  | none => simp [SpanForest.nested, hNamed]
  | some parent =>
      obtain ⟨p, hPart, rfl⟩ := h.exists_partOf hl hNamed
      have hMem : p.current ∈ spansIn lives traceId :=
        (mem_spansIn_iff traceId).2 ⟨p, hPart.mem_parent, (h.trace_eq hPart).symm.trans hTrace, rfl⟩
      have hOther := hPart.id_ne ids
      simp only [SpanForest.nested, parentId_current, hNamed, id_current, Option.isSome_some,
        Bool.and_eq_true, List.any_eq_true, beq_iff_eq, bne_iff_ne]
      exact ⟨⟨p.current, hMem, id_current p⟩, hOther⟩

/-- In the forest of a trace the spans are nested as their runs are. -/
theorem Nested.under_iff {child parent : RunLife} (hChild : child ∈ lives)
    (hParent : parent ∈ lives) :
    SpanForest.Under (SpanForest.build (spansIn lives traceId)) child.current parent.current ↔
      child.span.traceId = traceId ∧ PartOf lives child parent := by
  rw [SpanForest.under_build_iff (nodup_ids_spansIn traceId ids),
    (h.spansAll_build_perm traceId).mem_iff, current_mem_spansIn_iff traceId ids hParent,
    current_mem_spansIn_iff traceId ids hChild, h.partOf_iff ids, parentId_current, id_current]
  constructor
  · rintro ⟨-, hTrace, -, hNamed⟩
    exact ⟨hTrace, hChild, hParent, hNamed⟩
  · rintro ⟨hTrace, -, -, hNamed⟩
    have hPart : PartOf lives child parent := (h.partOf_iff ids).2 ⟨hChild, hParent, hNamed⟩
    refine ⟨(h.trace_eq hPart).symm.trans hTrace, hTrace, ?_, hNamed⟩
    rw [h.nested_current traceId ids hChild hTrace, hNamed]
    rfl

/-- If every top-level run has a trace of its own, no trace has two trees. -/
theorem Nested.length_build_le_one (hRoots : (rootTraces lives).Nodup) :
    (SpanForest.build (spansIn lives traceId)).length ≤ 1 := by
  have hTops : ∀ u ∈ (SpanForest.build (spansIn lives traceId)).map SpanTree.span,
      ∃ l ∈ lives, l.span.traceId = traceId ∧ l.span.parentId = none ∧ l.current = u := by
    intro u hu
    rw [SpanForest.map_span_build] at hu
    obtain ⟨hMem, hRoot⟩ := List.mem_filter.1 hu
    obtain ⟨l, hl, hTrace, rfl⟩ := (mem_spansIn_iff traceId).1 hMem
    rw [h.nested_current traceId ids hl hTrace] at hRoot
    exact ⟨l, hl, hTrace, by simpa using hRoot, rfl⟩
  have hSame : ∀ u ∈ (SpanForest.build (spansIn lives traceId)).map SpanTree.span,
      ∀ v ∈ (SpanForest.build (spansIn lives traceId)).map SpanTree.span, u = v := by
    intro u hu v hv
    obtain ⟨a, ha, hTraceA, hNoneA, rfl⟩ := hTops u hu
    obtain ⟨b, hb, hTraceB, hNoneB, rfl⟩ := hTops v hv
    rw [root_unique ids hRoots ha hb hNoneA hNoneB (hTraceA.trans hTraceB.symm)]
  have hNodup : ((SpanForest.build (spansIn lives traceId)).map SpanTree.span).Nodup := by
    rw [SpanForest.map_span_build]
    exact (List.Nodup.of_map _ (nodup_ids_spansIn traceId ids)).filter _
  rw [← List.length_map SpanTree.span]
  generalize (SpanForest.build (spansIn lives traceId)).map SpanTree.span = tops at hSame hNodup
  cases tops with
  | nil => exact Nat.zero_le 1
  | cons u rest =>
      cases rest with
      | nil => exact Nat.le_refl 1
      | cons v more =>
          have hEq : u = v := hSame u (by simp) v (by simp)
          exact absurd (hEq ▸ List.mem_cons_self ..) (List.nodup_cons.1 hNodup).1

end Nested

end RunLife

/-! ## Trees in a session -/

namespace Recorder

open RunLife (PartOf TopOf)

variable {σ : Type} [Sink σ]

/-- Whatever the sink refuses, the spans are nested as the runs are: a span names the span of the
run that was named as parent and had begun before, the forests repeat this order, and with a trace
for every top-level run the traces tell the top-level runs apart. -/
theorem spans_nested_as_runs (r : Recorder) (sink : σ) {supply : Supply} (hFresh : supply.Fresh)
    {notices : List Notice} {history : List Exchange} {s : Session RunMap (Watched σ)}
    (hRun : r.attendAll notices (session sink supply) = (history, s)) :
    let lives := RunLife.ofHistory history
    (lives.map (·.start) = history.filterMap Exchange.acceptedStart? ∧
      lives.map (·.span) = s.sink.createdSpans ∧
      (lives.map (·.run)).Nodup ∧ (lives.map (·.span.id)).Nodup) ∧
    (∀ before l after, lives = before ++ l :: after → ∀ id, l.span.parentId = some id ↔
      ∃ p ∈ before, l.start.parent = some p.run ∧ p.span.id = id ∧
        p.span.traceId = l.span.traceId) ∧
    (∀ traceId,
      (spansAll (s.sink.store.forest traceId)).Perm
        ((lives.filter (·.span.traceId = traceId)).map RunLife.current) ∧
      ∀ child ∈ lives, ∀ parent ∈ lives,
        (s.sink.store.forest traceId).Under child.current parent.current ↔
          child.span.traceId = traceId ∧ PartOf lives child parent) ∧
    (r.policy = .perRun →
      (∀ traceId, (s.sink.store.forest traceId).length ≤ 1) ∧
      ∀ a ∈ lives, (∃! top, TopOf lives a top) ∧ ∀ b ∈ lives,
        (a.span.traceId = b.span.traceId ↔ ∃ top, TopOf lives a top ∧ TopOf lives b top)) := by
  intro lives
  obtain ⟨hHolds, hMirrors, hNested⟩ := lives_attendAll
    (motive := fun _ lives s => Mirrors lives s ∧ RunLife.Nested lives)
    (fun hHolds h hTurn => ⟨h.1.turn hHolds hTurn, hTurn.nested h.2⟩)
    ⟨.start hFresh, RunLife.nested_nil⟩ hRun
  have ids := hMirrors.ids
  have hForest (traceId : String) :
      s.sink.store.forest traceId = .build (RunLife.spansIn lives traceId) :=
    congrArg SpanForest.build (RunLife.spansOf_eq_spansIn traceId hMirrors.spans)
  refine ⟨⟨map_start_ofHistory hRun, hMirrors.created.symm, hHolds.distinct, ids⟩, ?parents,
    ?forests, ?traces⟩
  case parents =>
    intro before l after hSplit id
    exact hNested.parentId_eq_some_iff hHolds.distinct hSplit
  case forests =>
    intro traceId
    rw [hForest]
    refine ⟨hNested.spansAll_build_perm traceId, ?_⟩
    intro child hChild parent hParent
    exact hNested.under_iff traceId ids hChild hParent
  case traces =>
    intro hPolicy
    obtain ⟨-, hTraces⟩ := lives_attendAll (motive := fun _ => OwnTraces)
      (fun _ h hTurn => hTurn.ownTraces hPolicy h)
      ⟨hFresh, fun _ hl => (nomatch hl), List.nodup_nil⟩ hRun
    constructor
    · intro traceId
      rw [hForest]
      exact hNested.length_build_le_one traceId ids hTraces.roots
    · intro a ha
      constructor
      · exact hNested.existsUnique_topOf ids ha
      · intro b hb
        exact hNested.traceId_eq_iff ids hTraces.roots ha hb

/-- A plan whose first start is refused, a step of it that starts before it does, and a tool that
starts after it. -/
def latePlan : List Exchange × Session RunMap (Watched Gate) :=
  (Recorder.mk "story" none .perRun false).attendAll
    [.started (.new "plan" .chain (.text "goal")),
      .started { RunStart.new "step" .tool (.text "early") with parent := some "plan" },
      .started (.new "plan" .chain (.text "goal")),
      .started { RunStart.new "tool" .tool (.text "late") with parent := some "plan" },
      .ended "plan" (.value .null)]
    (session (Gate.start.refuse .createSpan 1) (.counting ⟨0, 0⟩))

theorem spans_nested_as_runs_latePlan :
    (Supply.counting ⟨0, 0⟩).Fresh ∧
    (RunLife.ofHistory latePlan.1).map (fun l => (l.run, l.span.parentId.isSome)) =
      [("step", false), ("plan", false), ("tool", true)] ∧
    (∀ traceId, (latePlan.2.sink.store.forest traceId).length ≤ 1) ∧
    ∀ l ∈ RunLife.ofHistory latePlan.1, ∃! top, TopOf (RunLife.ofHistory latePlan.1) l top := by
  have hFresh := Supply.fresh_counting ⟨0, 0⟩
  obtain ⟨-, -, -, hTraces⟩ := spans_nested_as_runs ⟨"story", none, .perRun, false⟩
    (Gate.start.refuse .createSpan 1) hFresh (Prod.eta latePlan).symm
  obtain ⟨hForests, hTops⟩ := hTraces rfl
  exact ⟨hFresh, by decide +kernel, hForests, fun l hl => (hTops l hl).1⟩

end Recorder

end StoryTrace
