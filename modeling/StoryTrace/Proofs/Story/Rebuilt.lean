import Mathlib.Data.List.Forall2
import StoryTrace.Proofs.Decimal.Magnitude
import StoryTrace.Proofs.Story.Failing
import StoryTrace.Proofs.Story.Metrics
import StoryTrace.Proofs.Story.Mirroring

/-!
# Stories rebuilt from their records

A story that is finalized over a store is read back from the trace and the spans of the store as it
was completed, with the beginning of its content. Its spans stand in the same order and are about
the same; how they ended agrees as far as their records could hear of it.
-/

namespace StoryTrace

theorem Instant.isFinite_millisFloat (start stop : Instant) :
    (start.millisFloat stop).isFinite = true := by
  rw [millisFloat]
  split
  case isTrue hBound => exact Decimal.isFinite_ofInt_div_thousand (Nat.lt_trans hBound (by decide))
  case isFalse => rfl

namespace Orchestrator

open StorySpan

/-! ## Outcomes -/

section

variable (content : Option String) (beatCount : Nat) (durationMs : Float)
  (metrics : Option StoryMetrics)

theorem field?_outcome_preview :
    ((outcome content beatCount durationMs metrics).field? "final_story_preview").bind
      Json.string? = content.map (Text.preview · previewLength) := by
  have hField : (outcome content beatCount durationMs metrics).field? "final_story_preview" =
      some (.ofOption .string (content.map (Text.preview · previewLength))) := by
    simp [outcome, Json.field?, Table.ofList, Table.merge]
  rw [hField]
  exact StoryEvent.string?_ofOption _

theorem field?_outcome_durationMs (h : durationMs.isFinite = true) :
    ((outcome content beatCount durationMs metrics).field? "duration_ms").bind Json.float? =
      some durationMs := by
  have hField : (outcome content beatCount durationMs metrics).field? "duration_ms" =
      some (.ofFloat durationMs) := by
    simp [outcome, Json.field?, Table.ofList, Table.merge]
  rw [hField]
  exact Json.float?_ofFloat h

theorem outputMetrics?_outcome (h : ∀ m ∈ metrics, m.Finite) :
    CompletedStory.outputMetrics? (some (outcome content beatCount durationMs metrics)) =
      metrics := by
  have hField : (outcome content beatCount durationMs metrics).field? "metrics" =
      some (.ofOption (fun m => m.toJson.canonical) metrics) := by
    simp [outcome, Json.field?, Table.ofList, Table.merge]
  rw [CompletedStory.outputMetrics?, Option.bind_some, hField]
  cases metrics with
  | none => rfl
  | some m =>
      have hObject : m.toJson.canonical.object?.isSome = true := by
        rw [StoryMetrics.canonical_toJson (h m rfl).sorted]
        rfl
      rw [Json.ofOption, Option.map_some, Option.getD_some, Option.filter_some, if_pos hObject,
        Option.bind_some, StoryMetrics.ofJson?_canonical_toJson (h m rfl)]

end

/-! ## Spans -/

theorem forall₂_filterMap_ofRecord? {dealings : List Dealing} {spans : List StorySpan}
    {records : List Span}
    (h : List.Forall₂ (fun span => Tells (revisions span.id dealings) span) spans records) :
    List.Forall₂ (fun span => Agrees (revisions span.id dealings) span) spans
      (records.filterMap ofRecord?) := by
  induction h with
  | nil => exact .nil
  | cons hTells hRest ih =>
      obtain ⟨told, hRead, hAgrees⟩ := hTells.reads
      rw [List.filterMap_cons_some hRead]
      exact .cons hAgrees ih

/-- What the spans are about is told in the same order. -/
theorem map_eq_of_forall₂_agrees {β : Type} {dealings : List Dealing}
    {spans told : List StorySpan} (f : StorySpan → β)
    (hf : ∀ a b : StorySpan, a.SameMatter b → f a = f b)
    (h : List.Forall₂ (fun span => Agrees (revisions span.id dealings) span) spans told) :
    spans.map f = told.map f := by
  induction h with
  | nil => rfl
  | cons hAgrees hRest ih => rw [List.map_cons, List.map_cons, hf _ _ hAgrees.matter, ih]

/-- Records that stand in the order of their starts are read in this order. -/
theorem spans_ofRecords {t : Trace} {records : List Span}
    (h : records.Pairwise fun a b => a.startedAt.ble b.startedAt = true) :
    (CompletedStory.ofRecords t records).spans = records.filterMap ofRecord? := by
  apply List.mergeSort_of_pairwise
  refine h.filterMap _ fun a b hLe told hTold next hNext => ?_
  rw [startTime_of_ofRecord? hTold, startTime_of_ofRecord? hNext]
  exact hLe

theorem SpanCall.kind_plan_ne_storyMetrics (c : SpanCall) : c.plan.kind ≠ .storyMetrics := by
  cases c <;> exact StoryKind.noConfusion

namespace Mirrors

variable {dealings : List Dealing} {s : Session StoryBoard (Watched Store)}
  (h : Mirrors dealings s)
include h

/-- The records of a trace are those of the spans that were opened for it. -/
theorem map_id_spansOf (traceId : String) :
    (s.sink.sink.spansOf traceId).map (·.id) = (openedFor traceId dealings).map (·.id) := by
  have hPairs : s.sink.sink.spans.map (fun record => (record.id, record.traceId)) =
      (dealings.filterMap Dealing.opened?).map fun x => (x.id, x.traceId) := by
    rw [← h.orderly.opened, stamps, List.map_map]
    rfl
  have hFiltered := congrArg (fun pairs => (pairs.filter (·.2 = traceId)).map Prod.fst) hPairs
  simp only [List.filter_map, List.map_map] at hFiltered
  exact hFiltered

theorem pairwise_spansOf (traceId : String) : (s.sink.sink.spansOf traceId).Pairwise
    fun a b => a.startedAt.ble b.startedAt = true :=
  (List.pairwise_map.1 h.orderly.sorted).filter _

/-- Spans with the ids of some records are told by them, if they are tracked. -/
theorem forall₂_tells {spans : List StorySpan} {records : List Span}
    (hIds : spans.map (·.id) = records.map (·.id))
    (hTracked : ∀ span ∈ spans, s.state.spans.get? span.id = some span)
    (hRecords : ∀ record ∈ records, record ∈ s.sink.sink.spans) :
    List.Forall₂ (fun span => Tells (revisions span.id dealings) span) spans
      records := by
  have hEqual : List.Forall₂ Eq (spans.map (·.id)) (records.map (·.id)) :=
    List.forall₂_eq_eq_eq ▸ hIds
  have hBoth := List.forall₂_map_left_iff.1 (List.forall₂_map_right_iff.1 hEqual)
  obtain ⟨hLength, hZip⟩ := List.forall₂_iff_zip.1 hBoth
  refine List.forall₂_iff_zip.2 ⟨hLength, fun {span record} hMem => ?_⟩
  obtain ⟨hSpan, hRecord⟩ := List.of_mem_zip hMem
  obtain ⟨found, hFound, hTells⟩ := h.mirrored span.id span (hTracked span hSpan)
  have hHere := h.orderly.indexed.span?_eq_some_iff.2
    ⟨hRecords record hRecord, (hZip hMem).symm⟩
  rwa [← Option.some.inj (hFound.symm.trans hHere)]

/-- The story of a trace with one root lists all that was opened for the trace. -/
theorem openedFor_eq_of_one_root {traceId : String} {root : ActiveStory} {rest : List Dealing}
    (hBegun : BegunLast dealings traceId root rest)
    (once : (rootsOf traceId dealings).length ≤ 1) :
    openedFor traceId dealings = openedFor traceId rest ∧
      ∃ metadata, rootsOf traceId dealings = [⟨root, metadata⟩] := by
  obtain ⟨before, sessionId, given, metadata, hSplit⟩ := hBegun.split
  have hRoots : rootsOf traceId dealings =
      rootsOf traceId before ++ ⟨root, metadata⟩ :: rootsOf traceId rest := by
    rw [hSplit, ← List.singleton_append, rootsOf_append, rootsOf_append]
    simp [rootsOf, Dealing.root?, hBegun.named]
  have hOne : rootsOf traceId before = [] ∧ rootsOf traceId rest = [] := by
    rw [hRoots, List.length_append, List.length_cons] at once
    exact ⟨List.length_eq_zero_iff.1 (by omega), List.length_eq_zero_iff.1 (by omega)⟩
  -- Without an earlier root nothing was opened for the trace before this one.
  have hNothing := h.rootedFirst traceId before ⟨_, hSplit.symm⟩ hOne.1
  constructor
  case left =>
    rw [hSplit, openedFor, List.filterMap_append, List.filter_append]
    rw [openedFor] at hNothing
    rw [hNothing]
    rfl
  case right => exact ⟨metadata, by rw [hRoots, hOne.1, hOne.2]; rfl⟩

end Mirrors

/-- One root was created for the trace, and the caller did not say what story it is. -/
structure OneRoot (traceId : String) (dealings : List Dealing) : Prop where
  once : (rootsOf traceId dealings).length ≤ 1
  unnamed : ∀ root ∈ rootsOf traceId dealings, root.metadata.get? "story_id" = none

/-- The story that is completed and the one that is read back agree after the dealings. -/
structure Rebuilds (dealings : List Dealing) (live rebuilt : CompletedStory) : Prop where
  traceId : rebuilt.traceId = live.traceId
  storyId : rebuilt.storyId = live.storyId
  sessionId : rebuilt.sessionId = live.sessionId
  beatCount : rebuilt.beatCount = live.beatCount
  durationMs : rebuilt.durationMs = live.durationMs
  metrics : rebuilt.metrics = live.metrics
  content : rebuilt.content = live.content.map (Text.preview · previewLength)
  spanIds : rebuilt.spans.map (·.id) = live.spans.map (·.id)
  spans : List.Forall₂ (fun span => Agrees (revisions span.id dealings) span) live.spans
    rebuilt.spans

section

variable {dealings : List Dealing} {s : Session StoryBoard (Watched Store)}
  (h : Mirrors dealings s)
include h

/-- The spans of an active story are told by the records of its trace, in the same order. -/
theorem Mirrors.forall₂_agrees {traceId : String} {story : ActiveStory}
    (hRoot : OneRoot traceId dealings) (known : s.state.active.get? traceId = some story) :
    List.Forall₂ (fun span => Agrees (revisions span.id dealings) span)
      (s.state.spansOf story) ((s.sink.sink.spansOf traceId).filterMap ofRecord?) := by
  obtain ⟨root, rest, hBegun, -, hLabels⟩ := h.tallies.spansOf_known known
  obtain ⟨hOpened, -⟩ := h.openedFor_eq_of_one_root hBegun hRoot.once
  have hIds : (s.state.spansOf story).map (·.id) = (s.sink.sink.spansOf traceId).map (·.id) := by
    have hBoth := congrArg (List.map SpanLabel.id) hLabels
    rw [List.map_map, List.map_map] at hBoth
    rw [h.map_id_spansOf, hOpened]
    exact hBoth
  exact forall₂_filterMap_ofRecord? (h.forall₂_tells hIds
    (fun _ hSpan => h.tallies.tracked_of_mem_spansOf hSpan) fun _ => List.mem_of_mem_filter)

/-- No span of a story is an event of metrics. -/
theorem Mirrors.eventMetrics?_spansOf {traceId : String} {story : ActiveStory}
    (hRoot : OneRoot traceId dealings) (known : s.state.active.get? traceId = some story) :
    CompletedStory.eventMetrics? ((s.sink.sink.spansOf traceId).filterMap ofRecord?) = none := by
  obtain ⟨root, rest, -, -, hLabels⟩ := h.tallies.spansOf_known known
  have hKinds : ((s.sink.sink.spansOf traceId).filterMap ofRecord?).map StorySpan.kind =
      (openedFor traceId rest).map (·.call.plan.kind) := by
    have hBoth := congrArg (List.map SpanLabel.kind) hLabels
    rw [List.map_map, List.map_map] at hBoth
    rw [← map_eq_of_forall₂_agrees StorySpan.kind (fun _ _ same => same.kind)
      (h.forall₂_agrees hRoot known)]
    exact hBoth
  have hNone : ((s.sink.sink.spansOf traceId).filterMap ofRecord?).reverse.find?
      (·.kind == .storyMetrics) = none := by
    rw [List.find?_eq_none]
    intro told hTold hMetrics
    have hMem := List.mem_map_of_mem (f := StorySpan.kind) (List.mem_reverse.1 hTold)
    rw [hKinds] at hMem
    obtain ⟨x, -, hKind⟩ := List.mem_map.1 hMem
    exact x.call.kind_plan_ne_storyMetrics (hKind.trans (beq_iff_eq.1 hMetrics))
  rw [CompletedStory.eventMetrics?, hNone]
  rfl

theorem Mirrors.rebuilds {traceId : String} {story : ActiveStory} (hRoot : OneRoot traceId dealings)
    (known : s.state.active.get? traceId = some story) (content : Option String)
    {metrics : Option StoryMetrics} (hFinite : ∀ m ∈ metrics, m.Finite) {live : CompletedStory}
    (now : Instant) (hLive : live = complete s.state story content metrics now) :
    ∃ t, s.sink.sink.trace? traceId = some t ∧ Rebuilds dealings live
      (CompletedStory.ofRecords
        (t.revise (some (outcome content live.beatCount live.durationMs metrics)) [])
        (s.sink.sink.spansOf traceId)) := by
  obtain ⟨root, rest, hBegun, hOutline, -⟩ := h.tallies.spansOf_known known
  obtain ⟨-, metadata, hRoots⟩ := h.openedFor_eq_of_one_root hBegun hRoot.once
  obtain ⟨t, hTrace, told⟩ := (hRoots ▸ h.traced traceId).exists_told
  have hAgrees := h.forall₂_agrees hRoot known
  have hSpans := spans_ofRecords (h.pairwise_spansOf traceId)
    (t := t.revise (some (outcome content live.beatCount live.durationMs metrics)) [])
  have hPreview := field?_outcome_preview content live.beatCount live.durationMs metrics
  have hMetrics := outputMetrics?_outcome content live.beatCount live.durationMs metrics hFinite
  have hDuration := field?_outcome_durationMs content live.beatCount live.durationMs metrics
    (hLive ▸ Instant.isFinite_millisFloat ..)
  have hKinds := map_eq_of_forall₂_agrees StorySpan.kind (fun _ _ same => same.kind) hAgrees
  refine ⟨t, hTrace, ?_⟩
  subst hLive
  generalize outcome content _ _ metrics = output at *
  constructor
  case traceId => exact told.id.trans (congrArg StoryOutline.traceId hOutline).symm
  case storyId =>
    have hStory : textOf? t.metadata "story_id" = some root.storyId :=
      told.storyId (hRoot.unnamed _ (hRoots ▸ List.mem_singleton_self _))
    calc (textOf? t.metadata "story_id").getD unknownStory
      _ = root.storyId := by rw [hStory, Option.getD_some]
      _ = story.storyId := (congrArg StoryOutline.storyId hOutline).symm
  case sessionId =>
    calc t.sessionId.getD ""
      _ = root.sessionId := by rw [told.sessionId, Option.getD_some]
      _ = story.sessionId := (congrArg StoryOutline.sessionId hOutline).symm
  case beatCount =>
    have hCount (spans : List StorySpan) : CompletedStory.countBeats spans =
        (spans.map StorySpan.kind).countP (· == .beatCreated) := by
      rw [List.countP_map]
      rfl
    calc CompletedStory.countBeats _
      _ = CompletedStory.countBeats ((s.sink.sink.spansOf traceId).filterMap ofRecord?) :=
        congrArg CompletedStory.countBeats hSpans
      _ = CompletedStory.countBeats (s.state.spansOf story) := by rw [hCount, hCount, hKinds]
  case durationMs =>
    calc ((output.field? "duration_ms").bind Json.float?).getD _
      _ = _ := by rw [hDuration, Option.getD_some]
  case metrics =>
    -- Without metrics in the outcome those of the last metrics event would count.
    have hNone := h.eventMetrics?_spansOf hRoot known
    calc (CompletedStory.outputMetrics? (some output)).orElse
          (fun _ => CompletedStory.eventMetrics? (CompletedStory.ofRecords
            (t.revise (some output) []) (s.sink.sink.spansOf traceId)).spans)
      _ = metrics := by rw [hMetrics, hSpans, hNone]; cases metrics <;> rfl
  case content => exact hPreview
  case spanIds =>
    rw [hSpans]
    exact (map_eq_of_forall₂_agrees StorySpan.id (fun _ _ same => same.id) hAgrees).symm
  case spans => exact hSpans ▸ hAgrees

end

/-- Over a store that accepts everything and receives nothing else, a story with one root is
completed when it is finalized, and the story that is read back from the trace and the spans of the
store agrees with it: it has the same names, duration, metrics and number of beats, the beginning of
the content, and the same spans in the same order. A span is told with all that it is about, and
with how it ended unless its record could not hear of all the calls for it. -/
theorem rebuilt_story_agrees (o : Orchestrator) {supply : Supply} (hFresh : supply.Fresh)
    (hClock : ∀ i j, i ≤ j → (supply.clock i).ble (supply.clock j) = true) {calls : List Call}
    {dealings : List Dealing} {s : Session StoryBoard (Watched Store)}
    (hRun : o.dealAll calls (session Store.empty supply) = (dealings, s)) {traceId : String}
    {story : ActiveStory} (known : s.state.active.get? traceId = some story)
    (hRoot : OneRoot traceId dealings) (content : Option String) {metrics : Option StoryMetrics}
    (hFinite : ∀ m ∈ metrics, m.Finite) :
    ∃ live s' trace, finalize traceId content metrics s = (.ok live, s') ∧
      s'.sink.sink.trace? traceId = some trace ∧ live.content = content ∧ live.metrics = metrics ∧
      Rebuilds dealings live
        (CompletedStory.ofRecords trace (s'.sink.sink.spansOf traceId)) := by
  have h := mirrors_of_dealAll hFresh hClock hRun
  have hFinal : finalize traceId content metrics s = (.ok (complete s.state story content metrics
      s.supply.takeTime.1), _) := finalize_of_accepts known rfl rfl
  obtain ⟨t, hTrace, hRebuilds⟩ := h.rebuilds hRoot known content hFinite s.supply.takeTime.1 rfl
  refine ⟨_, _, _, hFinal, ?_, rfl, rfl, hRebuilds⟩
  refine (s.sink.sink.trace?_reviseTrace traceId (some _) [] traceId).trans ?_
  rw [hTrace, Option.map_some, if_pos (Store.id_of_trace? hTrace)]
  rfl

/-- A story with a beat, an analysis that is given its output, and a flow that fails. -/
def toldStory : List Dealing × Session StoryBoard (Watched Store) :=
  dealAll ⟨none, "story"⟩
    [.createRoot "dusk" none (some "t1") [("mood", .string "calm")],
      .openSpan "t1" (.beat ⟨"b1", "It began.", 1, "setup", "generator", none, some "joy", none⟩),
      .openSpan "t1" (.analysis "emotional" (some "b1") none none),
      .setOutput "iii" (.object [("tone", .string "joy")]),
      .openSpan "t1" (.flow "arc" "local" none none none), .setError "iiii" "no answer"]
    (session Store.empty (.counting ⟨0, 0⟩))

theorem rebuilt_story_agrees_toldStory :
    (Supply.counting ⟨0, 0⟩).Fresh ∧
    (∀ i j, i ≤ j → ((Supply.counting ⟨0, 0⟩).clock i).ble ((Supply.counting ⟨0, 0⟩).clock j)) ∧
    OneRoot "t1" toldStory.1 ∧ StoryMetrics.default.Finite ∧
    ∃ live s' trace rebuilt, finalize "t1" (some "It began.") (some .default) toldStory.2 =
        (.ok live, s') ∧
      s'.sink.sink.trace? "t1" = some trace ∧
      rebuilt = CompletedStory.ofRecords trace (s'.sink.sink.spansOf "t1") ∧
      Rebuilds toldStory.1 live rebuilt ∧ rebuilt.beatCount = 1 ∧
      rebuilt.spans.map (·.id) = ["ii", "iii", "iiii"] ∧
      ∀ span ∈ live.spans, (revisions span.id toldStory.1).length ≤ heard span.kind := by
  have hFresh := Supply.fresh_counting ⟨0, 0⟩
  have hClock (i j : Nat) (_ : i ≤ j) :
      ((Supply.counting ⟨0, 0⟩).clock i).ble ((Supply.counting ⟨0, 0⟩).clock j) = true := rfl
  have hRoot : OneRoot "t1" toldStory.1 := ⟨by decide +kernel, by decide +kernel⟩
  have hFinite := StoryMetrics.finite_default
  have hGiven : ∀ m ∈ some StoryMetrics.default, m.Finite := by
    rintro _ ⟨⟩
    exact hFinite
  have hTold : ((finalize "t1" (some "It began.") (some .default) toldStory.2).1.map fun c =>
      (c.beatCount, c.spans.map (·.id),
        c.spans.all fun span => (revisions span.id toldStory.1).length ≤ heard span.kind)) =
      .ok (1, ["ii", "iii", "iiii"], true) := by
    decide +kernel
  have hActive : (toldStory.2.state.active.get? "t1").isSome = true := by decide +kernel
  obtain ⟨story, known⟩ := Option.isSome_iff_exists.1 hActive
  obtain ⟨live, s', trace, hFinal, hTrace, -, -, hRebuilds⟩ := rebuilt_story_agrees ⟨none, "story"⟩
    hFresh hClock (Prod.eta toldStory).symm known hRoot (some "It began.") hGiven
  rw [hFinal] at hTold
  obtain ⟨hBeats, hRest⟩ := Prod.mk.inj (Except.ok.inj hTold)
  obtain ⟨hIds, hHeard⟩ := Prod.mk.inj hRest
  refine ⟨hFresh, hClock, hRoot, hFinite, live, s', trace, _, hFinal, hTrace, rfl, hRebuilds,
    hRebuilds.beatCount.trans hBeats, hRebuilds.spanIds.trans hIds, ?_⟩
  simpa using hHeard

end Orchestrator

end StoryTrace
