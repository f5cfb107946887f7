import Mathlib.Data.List.Basic
import StoryTrace.Proofs.Session
import StoryTrace.Proofs.Store.Spans
import StoryTrace.Proofs.Story.Recorded
import StoryTrace.Report.Advice

/-!
# Metrics kept and metrics counted

A narrator counts what it is told, and the story that is read back from its records is counted by
the kinds of its spans. The counts agree, except that a remediation that has failed is counted from
its span and not by the narrator.
-/

namespace StoryTrace

namespace StoryNote

/-- The note tells of a remediation that has closed no gap. -/
def isFailure : StoryNote → Bool
  | .remediation g => !g.success
  | _ => false

/-- The notes whose events are of the kind. -/
def ofKind (kind : StoryKind) (note : StoryNote) : Bool := note.event.kind == kind

theorem kind_event_ne_storyMetrics (note : StoryNote) :
    ¬ (note.event.kind == .storyMetrics) = true := by
  cases note <;> exact Bool.false_ne_true

/-- What a note adds to the counts of the metrics. -/
theorem counts_tally (m : StoryMetrics) (note : StoryNote) :
    (tally m note).beats = m.beats + (note.ofKind .beatCreated).toNat ∧
      (tally m note).enrichments = m.enrichments + (note.ofKind .beatEnriched).toNat ∧
      (tally m note).decisions = m.decisions + (note.ofKind .routingDecision).toNat ∧
      (tally m note).remediations + note.isFailure.toNat =
        m.remediations + (note.ofKind .gapRemediated).toNat := by
  cases note with
  | remediation g => cases hSuccess : g.success <;> simp [tally, ofKind, event, isFailure, hSuccess]
  | _ => simp [tally, ofKind, event, isFailure]

/-- What notes add to the counts of the metrics. -/
theorem counts_foldl_tally (m : StoryMetrics) (notes : List StoryNote) :
    (notes.foldl tally m).beats = m.beats + notes.countP (ofKind .beatCreated) ∧
      (notes.foldl tally m).enrichments = m.enrichments + notes.countP (ofKind .beatEnriched) ∧
      (notes.foldl tally m).decisions = m.decisions + notes.countP (ofKind .routingDecision) ∧
      (notes.foldl tally m).remediations + notes.countP isFailure =
        m.remediations + notes.countP (ofKind .gapRemediated) := by
  induction notes generalizing m with
  | nil => exact ⟨rfl, rfl, rfl, rfl⟩
  | cons note rest ih =>
      obtain ⟨hBeats, hEnrichments, hDecisions, hRemediations⟩ := counts_tally m note
      obtain ⟨ihBeats, ihEnrichments, ihDecisions, ihRemediations⟩ := ih (tally m note)
      have hCons (p : StoryNote → Bool) :
          (note :: rest).countP p = (p note).toNat + rest.countP p := by
        rw [List.countP_cons, Nat.add_comm]
        cases p note <;> rfl
      simp only [List.foldl_cons, hCons]
      omega

/-- What notes come to when nothing was counted before. -/
theorem counts_tallied (notes : List StoryNote) :
    (notes.foldl tally .default).beats = notes.countP (ofKind .beatCreated) ∧
      (notes.foldl tally .default).enrichments = notes.countP (ofKind .beatEnriched) ∧
      (notes.foldl tally .default).decisions = notes.countP (ofKind .routingDecision) ∧
      (notes.foldl tally .default).remediations + notes.countP isFailure =
        notes.countP (ofKind .gapRemediated) := by
  obtain ⟨hBeats, hEnrichments, hDecisions, hRemediations⟩ := counts_foldl_tally .default notes
  exact ⟨hBeats.trans (Nat.zero_add _), hEnrichments.trans (Nat.zero_add _),
    hDecisions.trans (Nat.zero_add _), hRemediations.trans (Nat.zero_add _)⟩

end StoryNote

/-- Without metrics of its own a story is counted by the kinds of its spans. -/
theorem CompletedStory.counts_storyMetrics {c : CompletedStory} (h : c.metrics = none) :
    c.storyMetrics.beats = c.count .beatCreated ∧
      c.storyMetrics.enrichments = c.count .beatEnriched ∧
      c.storyMetrics.decisions = c.count .routingDecision ∧
      c.storyMetrics.remediations = c.count .gapRemediated := by
  rw [storyMetrics, h]
  exact ⟨rfl, rfl, rfl, rfl⟩

namespace Narrator

/-- Notes in the given order. -/
def tellAll {σ : Type} [Sink σ] (n : Narrator) (notes : List StoryNote) :
    Work Narration σ (List (Except SinkError String)) :=
  notes.mapM n.tell

/-- The span of a note is read as one of the kind of the note. -/
theorem kind_spanOf_event (note : StoryNote) (storyId id traceId : String)
    (started ended : Instant) :
    (StorySpan.ofRecord? (spanOf note.event storyId id traceId started ended)).map (·.kind) =
      some note.event.kind := by
  rw [note.unreserved_event.ofRecord?_spanOf]
  rfl

/-- The store holds one closed span for every note, below the one root trace. -/
structure Chronicles (notes : List StoryNote) (s : Session Narration Store) : Prop where
  fresh : s.supply.Fresh
  indexed : s.sink.Indexed
  gave : ∀ span ∈ s.sink.spans, s.supply.Gave span.id
  kinds : s.sink.spans.map (fun span => (StorySpan.ofRecord? span).map (·.kind)) =
    notes.map fun note => some note.event.kind
  silent : s.state.correlation = none → notes = [] ∧ s.sink.traces = []
  rooted : ∀ c, s.state.correlation = some c → ∃ t, s.sink.traces = [t] ∧ t.id = c.rootTraceId ∧
    t.output = none ∧ ∀ span ∈ s.sink.spans, span.traceId = t.id

/-- A session in which nothing was told. -/
def silence (storyId : String) (supply : Supply) : Session Narration Store :=
  ⟨⟨storyId, none, .default⟩, .empty, supply⟩

theorem chronicles_silence (storyId : String) {supply : Supply} (hFresh : supply.Fresh) :
    Chronicles [] (silence storyId supply) where
  fresh := hFresh
  indexed := Store.indexed_empty
  gave _ hSpan := nomatch hSpan
  kinds := rfl
  silent _ := ⟨rfl, rfl⟩
  rooted _ hRoot := nomatch hRoot

namespace Chronicles

variable {notes : List StoryNote} {s : Session Narration Store} (h : Chronicles notes s)
include h

/-- The metrics are no part of what is recorded. -/
theorem withMetrics (metrics : StoryMetrics) :
    Chronicles notes ⟨{ s.state with metrics }, s.sink, s.supply⟩ :=
  ⟨h.fresh, h.indexed, h.gave, h.kinds, h.silent, h.rooted⟩

theorem createRoot {c : Correlation} {t : Trace} {supply : Supply}
    (hNone : s.state.correlation = none) (hId : t.id = c.rootTraceId) (hOutput : t.output = none)
    (uses : s.supply.Uses 1 supply) :
    Chronicles notes
      ⟨{ s.state with correlation := some c }, s.sink.receive (.createTrace t), supply⟩ := by
  obtain ⟨rfl, hTraces⟩ := h.silent hNone
  have hSpans : s.sink.spans = [] := List.map_eq_nil_iff.1 h.kinds
  have hSame : (s.sink.receive (.createTrace t)).spans = s.sink.spans :=
    Store.spans_receive_createTrace t
  have hNew : (s.sink.receive (.createTrace t)).traces = [t] := by
    simp [Store.receive, Store.insertTrace, Store.hasTrace, hTraces]
  refine ⟨uses.fresh h.fresh, h.indexed.receive _, ?gave, ?kinds, ?silent, ?rooted⟩
  case gave => simp [hSame, hSpans]
  case kinds => simp [hSame, hSpans]
  case silent =>
    intro hNow
    cases hNow
  case rooted =>
    rintro _ ⟨⟩
    exact ⟨t, hNew, hId, hOutput, by simp [hSame, hSpans]⟩

theorem createSpan {c : Correlation} {note : StoryNote} {span : Span} {supply : Supply}
    (hRoot : s.state.correlation = some c) (hId : span.id = s.supply.ids s.supply.idsUsed)
    (hTrace : span.traceId = c.rootTraceId)
    (hKind : (StorySpan.ofRecord? span).map (·.kind) = some note.event.kind)
    (uses : s.supply.Uses 1 supply) :
    Chronicles (notes ++ [note]) ⟨s.state, s.sink.receive (.createSpan span), supply⟩ := by
  obtain ⟨t, hTraces, hSame, hOutput, hSpans⟩ := h.rooted c hRoot
  have hNew : ∀ old ∈ s.sink.spans, old.id ≠ span.id := by
    intro old hOld hEq
    exact h.fresh.not_gave 0 (hId ▸ hEq ▸ h.gave old hOld)
  have hAppend : (s.sink.receive (.createSpan span)).spans = s.sink.spans ++ [span] :=
    h.indexed.spans_insertSpan_of_new hNew
  refine ⟨uses.fresh h.fresh, h.indexed.receive _, ?gave, ?kinds, ?silent, ?rooted⟩
  case gave =>
    rw [hAppend, List.forall_mem_append, List.forall_mem_singleton, hId]
    exact ⟨fun old hOld => uses.gave (h.gave old hOld), uses.gave_taken Nat.one_pos⟩
  case kinds =>
    rw [hAppend, List.map_append, List.map_append, h.kinds, List.map_singleton, hKind]
    rfl
  case silent =>
    intro hNone
    rw [hRoot] at hNone
    cases hNone
  case rooted =>
    intro other hOther
    obtain rfl := Option.some.inj (hRoot.symm.trans hOther)
    refine ⟨t, (Store.traces_insertSpan ..).trans hTraces, hSame, hOutput, ?_⟩
    rw [hAppend, List.forall_mem_append, List.forall_mem_singleton]
    exact ⟨hSpans, hTrace.trans hSame.symm⟩

theorem rootTrace {t : Trace} (hTraces : s.sink.traces = [t]) :
    t.output = none ∧ ∀ span ∈ s.sink.spans, span.traceId = t.id := by
  cases hRoot : s.state.correlation with
  | none =>
      obtain ⟨-, hNone⟩ := h.silent hRoot
      rw [hNone] at hTraces
      cases hTraces
  | some c =>
      obtain ⟨other, hOther, -, hRest⟩ := h.rooted c hRoot
      obtain rfl := List.singleton_inj.1 (hTraces.symm.trans hOther)
      exact hRest

theorem map_kind_filterMap_ofRecord? :
    (s.sink.spans.filterMap StorySpan.ofRecord?).map (·.kind) = notes.map (·.event.kind) := by
  have hKinds := congrArg (List.filterMap id) h.kinds
  rw [List.filterMap_map, List.filterMap_map] at hKinds
  rw [List.map_filterMap]
  exact hKinds.trans (congrFun List.filterMap_eq_map' notes)

/-- The story that is read back has a span for every note, and no metrics of its own. -/
theorem ofRecords {t : Trace} (hTraces : s.sink.traces = [t]) :
    (CompletedStory.ofRecords t (s.sink.spansOf t.id)).metrics = none ∧
      ∀ kind, (CompletedStory.ofRecords t (s.sink.spansOf t.id)).count kind =
        notes.countP (·.ofKind kind) := by
  obtain ⟨hOutput, hSpans⟩ := h.rootTrace hTraces
  have hAll : s.sink.spansOf t.id = s.sink.spans := by
    apply List.filter_eq_self.2
    intro span hSpan
    exact beq_iff_eq.2 (hSpans span hSpan)
  rw [hAll]
  constructor
  case left =>
    have hNone : (CompletedStory.sortSpans (s.sink.spans.filterMap
        StorySpan.ofRecord?)).reverse.find? (·.kind == .storyMetrics) = none := by
      rw [List.find?_eq_none]
      intro span hSpan
      rw [List.mem_reverse, CompletedStory.sortSpans, List.mem_mergeSort] at hSpan
      have hKind : span.kind ∈ notes.map (·.event.kind) := by
        rw [← h.map_kind_filterMap_ofRecord?]
        exact List.mem_map_of_mem hSpan
      obtain ⟨note, -, hNote⟩ := List.mem_map.1 hKind
      rw [← hNote]
      exact note.kind_event_ne_storyMetrics
    simp [CompletedStory.ofRecords, hOutput, CompletedStory.outputMetrics?,
      CompletedStory.eventMetrics?, hNone]
  case right =>
    intro kind
    calc (CompletedStory.ofRecords t s.sink.spans).count kind
      _ = (s.sink.spans.filterMap StorySpan.ofRecord?).countP (·.kind == kind) :=
        (List.mergeSort_perm _ _).countP_eq _
      _ = ((s.sink.spans.filterMap StorySpan.ofRecord?).map (·.kind)).countP (· == kind) := by
        rw [List.countP_map]
        rfl
      _ = notes.countP (·.ofKind kind) := by
        rw [h.map_kind_filterMap_ofRecord?, List.countP_map]
        rfl

end Chronicles

section

open Work

variable {s : Session Narration Store}

/-- A store accepts the root trace, if there is none yet. -/
theorem yields_ensureRoot (n : Narrator)
    {goal : Except SinkError String → Session Narration Store → Prop}
    (hThere : ∀ c, s.state.correlation = some c → goal (.ok c.rootTraceId) s)
    (hNew : ∀ c t supply, s.state.correlation = none → t.id = c.rootTraceId → t.output = none →
      s.supply.Uses 1 supply → goal (.ok c.rootTraceId)
        ⟨{ s.state with correlation := some c }, s.sink.receive (.createTrace t), supply⟩) :
    n.ensureRoot.Yields s goal := by
  refine .bind (yields_state ?_)
  split
  case h_1 c hRoot => exact yields_pure (hThere c hRoot)
  case h_2 hNone =>
    refine .bind (yields_state (.bind (yields_newId (.bind (yields_now (.bind (yields_now
      (.bind (yields_send_store ?_)))))))))
    exact .bind (yields_now (.bind (yields_put (yields_pure
      (hNew (.start ..) (rootTrace ..) _ hNone rfl rfl ⟨rfl, rfl⟩)))))

theorem Chronicles.yields_tell {notes : List StoryNote} (h : Chronicles notes s) (n : Narrator)
    (note : StoryNote) : (n.tell note).Yields s fun answer t =>
      Chronicles (notes ++ [note]) t ∧ t.state.metrics = note.tally s.state.metrics ∧
        t.state.correlation ≠ none ∧ ∃ id, answer = .ok id := by
  have hCounted := h.withMetrics (note.tally s.state.metrics)
  refine .bind (yields_change (.bind (yields_ensureRoot n ?there ?new)))
  case there =>
    intro c hRoot
    refine .bind (yields_newId (.bind (yields_now (.bind (yields_state (.bind (yields_now
      (.bind (yields_send_store ?_)))))))))
    exact yields_pure ⟨hCounted.createSpan hRoot rfl rfl (kind_spanOf_event ..) ⟨rfl, rfl⟩, rfl,
      hRoot ▸ Option.some_ne_none c, _, rfl⟩
  case new =>
    intro c t supply hNone hId hOutput uses
    have hRooted := hCounted.createRoot hNone hId hOutput uses
    refine .bind (yields_newId (.bind (yields_now (.bind (yields_state (.bind (yields_now
      (.bind (yields_send_store ?_)))))))))
    exact yields_pure ⟨hRooted.createSpan rfl rfl rfl (kind_spanOf_event ..) ⟨rfl, rfl⟩, rfl,
      Option.some_ne_none c, _, rfl⟩

end

theorem tellAll_cons {σ : Type} [Sink σ] (n : Narrator) (note : StoryNote)
    (rest : List StoryNote) (s : Session Narration σ) :
    n.tellAll (note :: rest) s = ((n.tell note s).1 :: (n.tellAll rest (n.tell note s).2).1,
      (n.tellAll rest (n.tell note s).2).2) := by
  simp only [tellAll, List.mapM_cons, Work.run_bind, Work.run_pure]

theorem Chronicles.tellAll {before : List StoryNote} {s : Session Narration Store}
    (h : Chronicles before s) (n : Narrator) (notes : List StoryNote) :
    Chronicles (before ++ notes) (n.tellAll notes s).2 ∧
      (n.tellAll notes s).2.state.metrics = notes.foldl StoryNote.tally s.state.metrics := by
  induction notes generalizing before s with
  | nil => exact ⟨(List.append_nil before).symm ▸ h, rfl⟩
  | cons note rest ih =>
      obtain ⟨hTold, hMetrics, -⟩ := h.yields_tell n note
      rw [tellAll_cons, List.append_cons, List.foldl_cons, ← hMetrics]
      exact ih hTold

/-- Whatever is told, the story that is read back from the records of a narrator has as many beats,
enrichments and decisions as the narrator has counted, and as many remediations as it has counted
and as have failed. So all four counts agree exactly if no remediation has failed. -/
theorem derived_counts_agree_up_to_failures (n : Narrator) (storyId : String) {supply : Supply}
    (hFresh : supply.Fresh) (notes : List StoryNote) {answers : List (Except SinkError String)}
    {s : Session Narration Store} (hRun : n.tellAll notes (silence storyId supply) = (answers, s)) :
    (notes = [] ∧ s.sink.traces = []) ∨ ∃ t derived, s.sink.traces = [t] ∧
      derived = (CompletedStory.ofRecords t (s.sink.spansOf t.id)).storyMetrics ∧
      derived.beats = s.state.metrics.beats ∧
      derived.enrichments = s.state.metrics.enrichments ∧
      derived.decisions = s.state.metrics.decisions ∧
      derived.remediations = s.state.metrics.remediations + notes.countP StoryNote.isFailure ∧
      (derived.remediations = s.state.metrics.remediations ↔
        ∀ note ∈ notes, note.isFailure = false) := by
  have hAll := (chronicles_silence storyId hFresh).tellAll n notes
  rw [hRun, List.nil_append] at hAll
  obtain ⟨hTold, hMetrics⟩ := hAll
  cases hRoot : s.state.correlation with
  | none => exact .inl (hTold.silent hRoot)
  | some c =>
      obtain ⟨t, hTraces, -⟩ := hTold.rooted c hRoot
      obtain ⟨hNone, hCounts⟩ := hTold.ofRecords hTraces
      obtain ⟨hBeats, hEnrichments, hDecisions, hRemediations⟩ :=
        CompletedStory.counts_storyMetrics hNone
      obtain ⟨hKeptBeats, hKeptEnrichments, hKeptDecisions, hKeptRemediations⟩ :=
        StoryNote.counts_tallied notes
      have hMore : (CompletedStory.ofRecords t (s.sink.spansOf t.id)).storyMetrics.remediations =
          s.state.metrics.remediations + notes.countP StoryNote.isFailure := by
        rw [hRemediations, hCounts, hMetrics]
        exact hKeptRemediations.symm
      refine .inr ⟨t, _, hTraces, rfl, ?beats, ?enrichments, ?decisions, hMore, ?agree⟩
      case beats =>
        rw [hBeats, hCounts, hMetrics]
        exact hKeptBeats.symm
      case enrichments =>
        rw [hEnrichments, hCounts, hMetrics]
        exact hKeptEnrichments.symm
      case decisions =>
        rw [hDecisions, hCounts, hMetrics]
        exact hKeptDecisions.symm
      case agree =>
        rw [hMore, Nat.add_eq_left, List.countP_eq_zero]
        simp only [Bool.not_eq_true]

/-- A story with a beat and a gap that is closed at the second attempt. -/
def secondAttempt : List StoryNote :=
  [.beat ⟨"b1", "It began.", 1, "setup", "generator", none, none, none⟩,
    .remediation ⟨"pacing", "expand", ["f1"], false, some "b1", none⟩,
    .remediation ⟨"pacing", "rewrite", ["f2"], true, some "b1", none⟩]

theorem derived_counts_agree_up_to_failures_secondAttempt :
    (Supply.counting ⟨0, 0⟩).Fresh ∧
    ∃ t s, (tellAll ⟨none, none, "trace", true⟩ secondAttempt
        (silence "s1" (.counting ⟨0, 0⟩))).2 = s ∧ s.sink.traces = [t] ∧
      (CompletedStory.ofRecords t (s.sink.spansOf t.id)).storyMetrics.beats = 1 ∧
      (CompletedStory.ofRecords t (s.sink.spansOf t.id)).storyMetrics.remediations = 2 ∧
      s.state.metrics.remediations = 1 := by
  have hFresh := Supply.fresh_counting ⟨0, 0⟩
  refine ⟨hFresh, ?_⟩
  cases hRun : tellAll ⟨none, none, "trace", true⟩ secondAttempt
      (silence "s1" (.counting ⟨0, 0⟩)) with
  | mk answers s =>
      have hKept : s.state.metrics.beats = 1 ∧ s.state.metrics.remediations = 1 := by
        rw [show s = _ from (congrArg Prod.snd hRun).symm]
        decide +kernel
      have hAgree := derived_counts_agree_up_to_failures _ "s1" hFresh secondAttempt hRun
      rcases hAgree with ⟨hNone, -⟩ | ⟨t, _, hTraces, rfl, hBeats, -, -, hRemediations, -⟩
      · cases hNone
      · refine ⟨t, s, rfl, hTraces, hBeats.trans hKept.1, ?_, hKept.2⟩
        rw [hRemediations, hKept.2]
        rfl

/-- A remediation that has failed is counted in the story that is read back. -/
theorem failed_remediation_counted :
    ∃ t s, (tellAll ⟨some "t1", none, "trace", true⟩
        [.remediation ⟨"pacing", "expand", ["f1"], false, some "b1", none⟩]
        (silence "s1" (.counting ⟨0, 0⟩))).2 = s ∧ s.sink.traces = [t] ∧
      s.state.metrics.remediations = 0 ∧
      (CompletedStory.ofRecords t (s.sink.spansOf t.id)).storyMetrics.remediations = 1 := by
  obtain ⟨hTold, hMetrics⟩ := (chronicles_silence "s1" (Supply.fresh_counting ⟨0, 0⟩)).tellAll
    ⟨some "t1", none, "trace", true⟩
    [.remediation ⟨"pacing", "expand", ["f1"], false, some "b1", none⟩]
  obtain ⟨t, hTraces, -⟩ := hTold.rooted _ rfl
  obtain ⟨hNone, hCounts⟩ := hTold.ofRecords hTraces
  obtain ⟨-, -, -, hRemediations⟩ := CompletedStory.counts_storyMetrics hNone
  exact ⟨t, _, rfl, hTraces, congrArg StoryMetrics.remediations hMetrics,
    hRemediations.trans (hCounts _)⟩

end Narrator

end StoryTrace
