import StoryTrace.Proofs.Forest.Parts
import StoryTrace.Proofs.Interleaved
import StoryTrace.Proofs.Run.Portrait
import StoryTrace.Proofs.Run.Trees

/-!
# Overlapping streams of notices

Two streams of notices about different runs do not disturb each other, however they are
interleaved: told apart by the ids of the runs, and up to the times, each of them has the answers
and the forests that it has alone, and its runs share traces as they do alone.
-/

namespace StoryTrace

namespace Notice

/-- Whether a notice is about the run. -/
def concern (notices : List Notice) (run : RunId) : Bool := notices.any (·.run == run)

/-- The streams are about different runs, and no start names a run of the other stream as its
parent. -/
structure Apart (xs ys : List Notice) : Prop where
  runs : ∀ x ∈ xs, ∀ y ∈ ys, x.run ≠ y.run
  parents : ∀ x ∈ xs, ∀ y ∈ ys, x.parent? ≠ some y.run ∧ y.parent? ≠ some x.run

variable {xs ys zs : List Notice}

theorem Apart.symm (h : Apart xs ys) : Apart ys xs where
  runs y hy x hx := (h.runs x hx y hy).symm
  parents y hy x hx := (h.parents x hx y hy).symm

theorem concern_of_mem {x : Notice} (hx : x ∈ xs) : concern xs x.run = true :=
  List.any_eq_true.2 ⟨x, hx, beq_self_eq_true _⟩

theorem Apart.concern_eq_false (h : Apart xs ys) {y : Notice} (hy : y ∈ ys) :
    concern xs y.run = false := by
  rw [concern, List.any_eq_false]
  intro x hx hSame
  exact h.runs x hx y hy (beq_iff_eq.1 hSame)

theorem Apart.separates (h : Apart xs ys) (hZs : Interleaved xs ys zs) :
    Chronicle.Separates (concern xs) zs := by
  intro a ha b hb hParent
  rcases hZs.mem_iff.1 ha with hax | hay <;> rcases hZs.mem_iff.1 hb with hbx | hby
  · rw [concern_of_mem hax, concern_of_mem hbx]
  · exact absurd hParent (h.parents a hax b hby).1
  · exact absurd hParent (h.parents b hbx a hay).2
  · rw [h.concern_eq_false hay, h.concern_eq_false hby]

theorem Apart.filter_eq (h : Apart xs ys) (hZs : Interleaved xs ys zs) :
    zs.filter (concern xs ·.run) = xs :=
  hZs.filter_eq (fun _ => concern_of_mem) fun _ => h.concern_eq_false

end Notice

namespace RunMap

/-- The run whose span has the given id. -/
def runOf (m : RunMap) (spanId : String) : RunId :=
  ((m.runs.find? fun e => e.2.span.any (·.id == spanId)).map (·.1)).getD ""

/-- The span under the ids of the runs, without its trace and its times. -/
def sketch (m : RunMap) (s : Span) : Span := s.renamed m.runOf fun _ => ""

theorem Holds.runOf_eq {m : RunMap} {lives : List RunLife} (h : m.Holds lives)
    (ids : (lives.map (·.span.id)).Nodup) {l : RunLife} (hl : l ∈ lives) :
    m.runOf l.span.id = l.run := by
  have hFound : (m.runs.find? fun e => e.2.span.any (·.id == l.span.id)).isSome := by
    rw [List.find?_isSome]
    exact ⟨l.entry, h.mem_runs_iff.2 ⟨l, hl, rfl⟩, by simp [RunLife.entry]⟩
  obtain ⟨e, hFirst⟩ := Option.isSome_iff_exists.1 hFound
  obtain ⟨first, hMem, rfl⟩ := h.mem_runs_iff.1 (List.mem_of_find?_eq_some hFirst)
  have hId : first.span.id = l.span.id := by simpa [RunLife.entry] using List.find?_some hFirst
  rw [runOf, hFirst, List.inj_on_of_nodup_map ids hMem hl hId]
  rfl

end RunMap

/-! ## Forests of a chronicle -/

/-- The span without its trace. -/
def Span.untraced (s : Span) : Span := { s with traceId := "" }

namespace Chronicle

/-- The forest of the spans in a trace. -/
def forest (spans : List Span) (traceId : String) : SpanForest :=
  .build ((spans.filter (·.traceId == traceId)).map Span.untraced)

/-- The trace of a run. -/
def traceId? (spans : List Span) (run : RunId) : Option String :=
  (spans.find? (·.id == run)).map (·.traceId)

variable {mine : RunId → Bool} {policy : TracePolicy} {notices : List Notice}

theorem traceId?_filter (spans : List Span) {run : RunId} (hRun : mine run = true) :
    traceId? (spans.filter (mine ·.id)) run = traceId? spans run := by
  rw [traceId?, traceId?, find?_filter_mine]
  intro s _ hId
  rw [beq_iff_eq.1 hId, hRun]

/-- A trace that is named by a run is named by a run of the part that its runs belong to. -/
theorem mine_of_traceId? (h : Separates mine notices) {run : RunId} {name : String}
    (hTrace : traceId? (ofNotices .perRun notices).spans run = some name) :
    mine name = mine run := by
  obtain ⟨s, hFind, rfl⟩ := Option.map_eq_some_iff.1 hTrace
  have hId : s.id = run := by simpa using List.find?_some hFind
  rw [← hId]
  exact mine_traceId_of_mem h (List.mem_of_find?_eq_some hFind)

/-- The trees of some of the runs are the forest of these runs. -/
theorem forest_filter (h : Separates mine notices) (traceId : String) :
    forest ((ofNotices policy notices).spans.filter (mine ·.id)) traceId =
      (forest (ofNotices policy notices).spans traceId).filter (mine ·.span.id) := by
  have hMine (spans : List Span) : (spans.map Span.untraced).filter (mine ·.id) =
      (spans.filter (mine ·.id)).map Span.untraced := List.filter_map
  rw [forest, SpanForest.filter_filter_comm, ← hMine]
  refine SpanForest.build_filter fun s hs t ht hHangs => ?_
  obtain ⟨parent, hParent, rfl⟩ := List.mem_map.1 hs
  obtain ⟨child, hChild, rfl⟩ := List.mem_map.1 ht
  have hNamed : child.parentId = some parent.id := beq_iff_eq.1 hHangs
  have hSame := mine_id_eq_of_parent h (List.mem_filter.1 hParent).1 (List.mem_filter.1 hChild).1
    hNamed
  exact hSame

/-- The forest of the trace of a run has the same trees of the part, alone or among others. -/
theorem map_forest_filter (h : Separates mine notices) {run : RunId} (hRun : mine run = true) :
    (traceId? ((ofNotices policy notices).spans.filter (mine ·.id)) run).map
        (forest ((ofNotices policy notices).spans.filter (mine ·.id))) =
      ((traceId? (ofNotices policy notices).spans run).map
        (forest (ofNotices policy notices).spans)).map (List.filter (mine ·.span.id)) := by
  rw [traceId?_filter _ hRun, Option.map_map]
  exact congrArg (Option.map · _) (funext fun traceId => forest_filter h traceId)

end Chronicle

namespace Recorder

variable {σ : Type}

/-- The forest of a trace under the ids of the runs, without times. -/
def sketchedForest (s : Session RunMap (Watched σ)) (traceId : String) : SpanForest :=
  List.map (SpanTree.map s.state.sketch) (s.sink.store.forest traceId)

/-- What a session among others has come to for some of the runs is what a session of their own has
come to. -/
structure Undisturbed (mine : RunId → Bool)
    (together alone : List Exchange × Session RunMap (Watched σ)) : Prop where
  answers : (together.1.filter (mine ·.notice.run)).map (·.answer.written) =
    alone.1.map (·.answer.written)
  spans : (together.2.sink.store.spans.map together.2.state.sketch).filter (mine ·.id) =
    alone.2.sink.store.spans.map alone.2.state.sketch
  forests : ∀ run, mine run = true →
    (together.2.state.traceId? run).map (fun traceId =>
        (sketchedForest together.2 traceId).filter (mine ·.span.id)) =
      (alone.2.state.traceId? run).map (sketchedForest alone.2)
  traces : ∀ a b, mine a = true → mine b = true →
    (together.2.state.traceId? a = together.2.state.traceId? b ↔
      alone.2.state.traceId? a = alone.2.state.traceId? b)

section

variable {r : Recorder} {lives : List RunLife} {s : Session RunMap (Watched σ)}

theorem sketch_current (hHolds : s.state.Holds lives) (h : Lived r lives s) {l : RunLife}
    (hl : l ∈ lives) :
    s.state.sketch l.current = (RunLife.portrait r.policy lives l).untraced := by
  have ids := h.mirrors.ids
  have hParent : l.span.parentId.map s.state.runOf =
      l.span.parentId.map (RunLife.runNamed lives) := by
    cases hNamed : l.span.parentId with
    | none => rfl
    | some parent =>
        obtain ⟨p, hPart, rfl⟩ := h.nested.exists_partOf hl hNamed
        rw [Option.map_some, Option.map_some, hHolds.runOf_eq ids hPart.mem_parent,
          RunLife.runNamed_of_mem ids hPart.mem_parent]
  simp only [RunMap.sketch, RunLife.portrait, Span.renamed, Span.untraced, RunLife.id_current,
    RunLife.parentId_current, hHolds.runOf_eq ids hl, RunLife.runNamed_of_mem ids hl, hParent]

theorem map_sketch_spans (hHolds : s.state.Holds lives) (h : Lived r lives s) :
    s.sink.store.spans.map s.state.sketch =
      (RunLife.portraits r.policy lives).map Span.untraced := by
  rw [h.mirrors.spans, RunLife.portraits, List.map_map, List.map_map]
  exact List.map_congr_left fun l hl => sketch_current hHolds h hl

theorem traceId?_portraits (hHolds : s.state.Holds lives) (h : Lived r lives s) (run : RunId) :
    Chronicle.traceId? (RunLife.portraits r.policy lives) run =
      (s.state.traceId? run).map (RunLife.traceNamed r.policy lives) := by
  have hFind : (RunLife.portraits r.policy lives).find? (·.id == run) =
      (lives.find? (·.run = run)).map (RunLife.portrait r.policy lives) := by
    rw [RunLife.portraits, List.find?_map]
    refine congrArg (Option.map _) (List.find?_congr fun l hl => ?_)
    rw [Function.comp_apply, RunLife.id_portrait h.mirrors.ids hl]
    exact Bool.beq_eq_decide_eq ..
  rw [Chronicle.traceId?, hFind, RunMap.traceId?, hHolds.find?_eq, Option.map_map, Option.map_map,
    Option.map_map]
  congr 1
  funext l
  simp only [Function.comp_apply, RunLife.portrait, Span.renamed, RunLife.traceId_current,
    RunLife.entry]

theorem exists_of_traceId? (hHolds : s.state.Holds lives) {run : RunId} {traceId : String}
    (h : s.state.traceId? run = some traceId) :
    ∃ l ∈ lives, l.run = run ∧ l.span.traceId = traceId := by
  rw [RunMap.traceId?, hHolds.find?_eq, Option.map_map] at h
  obtain ⟨l, hFind, hTrace⟩ := Option.map_eq_some_iff.1 h
  exact ⟨l, List.mem_of_find?_eq_some hFind, by simpa using List.find?_some hFind, hTrace⟩

/-- Runs share a trace exactly if the chronicle has them share one. -/
theorem traceId?_eq_iff (hHolds : s.state.Holds lives) (h : Lived r lives s) (a b : RunId) :
    s.state.traceId? a = s.state.traceId? b ↔
      Chronicle.traceId? (RunLife.portraits r.policy lives) a =
        Chronicle.traceId? (RunLife.portraits r.policy lives) b := by
  rw [traceId?_portraits hHolds h, traceId?_portraits hHolds h]
  constructor
  · intro hSame
    rw [hSame]
  · intro hNames
    cases hA : s.state.traceId? a with
    | none =>
        rw [hA, Option.map_none, eq_comm, Option.map_eq_none_iff] at hNames
        exact hNames.symm
    | some traceA =>
        obtain ⟨l, hl, -, rfl⟩ := exists_of_traceId? hHolds hA
        rw [hA, Option.map_some, eq_comm, Option.map_eq_some_iff] at hNames
        obtain ⟨traceB, hB, hName⟩ := hNames
        obtain ⟨k, hk, -, rfl⟩ := exists_of_traceId? hHolds hB
        rw [hB, (RunLife.traceNamed_eq_iff hHolds.distinct h.inFixedTrace hk hl).1 hName]

/-- A parent is named by the id of its run exactly if it is named by the id of its span. -/
theorem hangsBelow_sketch (hHolds : s.state.Holds lives) (h : Lived r lives s) {a b : RunLife}
    (ha : a ∈ lives) (hb : b ∈ lives) :
    SpanForest.hangsBelow (s.state.sketch a.current).id (s.state.sketch b.current) =
      SpanForest.hangsBelow a.current.id b.current := by
  have ids := h.mirrors.ids
  simp only [SpanForest.hangsBelow, RunMap.sketch, Span.renamed, RunLife.id_current,
    RunLife.parentId_current, hHolds.runOf_eq ids ha]
  cases hNamed : b.span.parentId with
  | none => rfl
  | some parent =>
      obtain ⟨p, hPart, rfl⟩ := h.nested.exists_partOf hb hNamed
      have hp := hPart.mem_parent
      rw [Option.map_some, Option.some_beq_some, Option.some_beq_some, hHolds.runOf_eq ids hp,
        Bool.eq_iff_iff, beq_iff_eq, beq_iff_eq]
      constructor
      · intro hRun
        rw [List.inj_on_of_nodup_map hHolds.distinct hp ha hRun]
      · intro hId
        rw [List.inj_on_of_nodup_map ids hp ha hId]

/-- The forest of a trace is the one that the chronicle has for it. -/
theorem sketchedForest_eq (hHolds : s.state.Holds lives) (h : Lived r lives s) {l : RunLife}
    (hl : l ∈ lives) :
    sketchedForest s l.span.traceId = Chronicle.forest (RunLife.portraits r.policy lives)
      (RunLife.traceNamed r.policy lives l.span.traceId) := by
  have hSpans : (RunLife.spansIn lives l.span.traceId).map s.state.sketch =
      ((RunLife.portraits r.policy lives).filter
        (·.traceId == RunLife.traceNamed r.policy lives l.span.traceId)).map Span.untraced := by
    rw [RunLife.portraits, List.filter_map, RunLife.spansIn, List.map_map, List.map_map]
    have hFilter : lives.filter ((·.traceId == RunLife.traceNamed r.policy lives l.span.traceId) ∘
        RunLife.portrait r.policy lives) = lives.filter (·.span.traceId = l.span.traceId) := by
      refine List.filter_congr fun k hk => ?_
      rw [Function.comp_apply, Bool.eq_iff_iff, beq_iff_eq, decide_eq_true_eq, RunLife.portrait,
        Span.renamed, RunLife.traceId_current]
      exact RunLife.traceNamed_eq_iff hHolds.distinct h.inFixedTrace hk hl
    rw [hFilter]
    exact List.map_congr_left fun k hk => sketch_current hHolds h (List.mem_filter.1 hk).1
  rw [sketchedForest, Store.forest, RunLife.spansOf_eq_spansIn _ h.mirrors.spans,
    ← SpanForest.build_map, hSpans, Chronicle.forest]
  intro a ha b hb
  obtain ⟨k, hk, -, rfl⟩ := (RunLife.mem_spansIn_iff _).1 ha
  obtain ⟨m, hm, -, rfl⟩ := (RunLife.mem_spansIn_iff _).1 hb
  exact hangsBelow_sketch hHolds h hk hm

/-- The forest of the trace of a run is the one that the chronicle has for it. -/
theorem map_sketchedForest (hHolds : s.state.Holds lives) (h : Lived r lives s) (run : RunId) :
    (s.state.traceId? run).map (sketchedForest s) =
      (Chronicle.traceId? (RunLife.portraits r.policy lives) run).map
        (Chronicle.forest (RunLife.portraits r.policy lives)) := by
  rw [traceId?_portraits hHolds h]
  cases hTrace : s.state.traceId? run with
  | none => rfl
  | some traceId =>
      obtain ⟨l, hl, -, rfl⟩ := exists_of_traceId? hHolds hTrace
      exact congrArg some (sketchedForest_eq hHolds h hl)

end

/-! ## One stream among others -/

section

variable [Sink σ]

/-- Notices about some runs come to the same among notices about other runs as alone. -/
theorem undisturbed (r : Recorder) {mine : RunId → Bool} {zs : List Notice}
    (hSeparates : Chronicle.Separates mine zs) {sink sink' : σ}
    (hAccepts : Sink.AcceptsAll sink) (hAccepts' : Sink.AcceptsAll sink')
    {supply supply' : Supply} (hFresh : supply.Fresh) (hFresh' : supply'.Fresh) :
    Undisturbed mine (r.attendAll zs (session sink supply))
      (r.attendAll (zs.filter (mine ·.run)) (session sink' supply')) := by
  obtain ⟨hHolds, hLived, hTells⟩ := tells_attendAll r hAccepts hFresh
    (Prod.eta (r.attendAll zs (session sink supply))).symm
  obtain ⟨hHolds', hLived', hTells'⟩ := tells_attendAll r hAccepts' hFresh'
    (Prod.eta (r.attendAll (zs.filter (mine ·.run)) (session sink' supply'))).symm
  generalize r.attendAll zs (session sink supply) = together at hHolds hLived hTells ⊢
  generalize r.attendAll (zs.filter (mine ·.run)) (session sink' supply') = alone
    at hHolds' hLived' hTells' ⊢
  let whole := (Chronicle.ofNotices r.policy zs).spans
  have hPart := Chronicle.restrict_ofNotices r.policy hSeparates
  have hResults := congrArg Chronicle.results hPart
  have hSpans := congrArg Chronicle.spans hPart
  simp only [Chronicle.restrict] at hResults hSpans
  refine ⟨?answers, ?spans, ?forests, ?traces⟩
  case answers =>
    have hPairs := congrArg (List.filter fun p => mine p.1) hTells.results
    rw [List.filter_map, List.filter_map] at hPairs
    have hBoth := hPairs.trans ((congrArg (List.map _) hResults).trans hTells'.results.symm)
    simpa [Function.comp_def] using congrArg (List.map Prod.snd) hBoth
  case spans =>
    rw [map_sketch_spans hHolds hLived, map_sketch_spans hHolds' hLived', hTells.spans,
      hTells'.spans, ← hSpans, List.filter_map]
    rfl
  case forests =>
    intro run hRun
    calc (together.2.state.traceId? run).map
          (fun traceId => (sketchedForest together.2 traceId).filter (mine ·.span.id))
        = ((together.2.state.traceId? run).map (sketchedForest together.2)).map
            (List.filter (mine ·.span.id)) := (Option.map_map ..).symm
      _ = (Chronicle.traceId? (whole.filter (mine ·.id)) run).map
            (Chronicle.forest (whole.filter (mine ·.id))) := by
          rw [map_sketchedForest hHolds hLived, hTells.spans,
            Chronicle.map_forest_filter hSeparates hRun]
      _ = (alone.2.state.traceId? run).map (sketchedForest alone.2) := by
          rw [hSpans, map_sketchedForest hHolds' hLived', hTells'.spans]
  case traces =>
    intro a b ha hb
    rw [traceId?_eq_iff hHolds hLived, traceId?_eq_iff hHolds' hLived', hTells.spans, hTells'.spans,
      ← hSpans, Chronicle.traceId?_filter _ ha, Chronicle.traceId?_filter _ hb]

/-- If every run without a known parent has a trace of its own, runs of the two parts never share
one. -/
theorem traceId?_ne_of_separates (r : Recorder) (hPolicy : r.policy = .perRun)
    {mine : RunId → Bool} {zs : List Notice} (hSeparates : Chronicle.Separates mine zs) {sink : σ}
    (hAccepts : Sink.AcceptsAll sink) {supply : Supply} (hFresh : supply.Fresh) {a b : RunId}
    {traceId : String} (hApart : mine a ≠ mine b)
    (ha : (r.attendAll zs (session sink supply)).2.state.traceId? a = some traceId) :
    (r.attendAll zs (session sink supply)).2.state.traceId? b ≠ some traceId := by
  intro hb
  obtain ⟨hHolds, hLived, hTells⟩ := tells_attendAll r hAccepts hFresh
    (Prod.eta (r.attendAll zs (session sink supply))).symm
  have hNameA := traceId?_portraits hHolds hLived a
  have hNameB := traceId?_portraits hHolds hLived b
  rw [ha, hTells.spans, hPolicy] at hNameA
  rw [hb, hTells.spans, hPolicy] at hNameB
  apply hApart
  rw [← Chronicle.mine_of_traceId? hSeparates hNameA,
    ← Chronicle.mine_of_traceId? hSeparates hNameB]

/-- Over sinks that refuse nothing, two interleaved streams of notices about different runs have the
answers, the spans, the forests and the shared traces that each of them has alone, and no trace has
runs of both if every top-level run has a trace of its own. -/
theorem streams_keep_apart (r : Recorder) {xs ys zs : List Notice}
    (hApart : Notice.Apart xs ys) (hZs : Interleaved xs ys zs) {sink : σ}
    (hAccepts : Sink.AcceptsAll sink) {supply : Supply} (hFresh : supply.Fresh)
    {together : List Exchange × Session RunMap (Watched σ)}
    (hRun : r.attendAll zs (session sink supply) = together) :
    (∀ alone : σ, Sink.AcceptsAll alone → ∀ own : Supply, own.Fresh →
      Undisturbed (Notice.concern xs) together (r.attendAll xs (session alone own)) ∧
      Undisturbed (Notice.concern ys) together (r.attendAll ys (session alone own))) ∧
    (r.policy = .perRun → ∀ x ∈ xs, ∀ y ∈ ys, ∀ traceId,
      together.2.state.traceId? x.run = some traceId →
        together.2.state.traceId? y.run ≠ some traceId) := by
  subst hRun
  have hLeft := hApart.separates hZs
  constructor
  · intro alone hAlone own hOwn
    have hFirst := undisturbed r hLeft hAccepts hAlone hFresh hOwn
    have hSecond := undisturbed r (hApart.symm.separates hZs.symm) hAccepts hAlone hFresh hOwn
    rw [hApart.filter_eq hZs] at hFirst
    rw [hApart.symm.filter_eq hZs.symm] at hSecond
    exact ⟨hFirst, hSecond⟩
  · intro hPolicy x hx y hy traceId hTrace
    refine traceId?_ne_of_separates r hPolicy hLeft hAccepts hFresh ?_ hTrace
    rw [Notice.concern_of_mem hx, hApart.concern_eq_false hy]
    exact Bool.noConfusion

end

/-- A plan with a step that ends twice. -/
def planNotices : List Notice :=
  [.started (.new "plan" .chain (.text "goal")),
    .started { RunStart.new "step" .tool (.text "search") with parent := some "plan" },
    .ended "step" (.value .null), .failed "step" ⟨"late", none⟩, .ended "plan" (.value .null)]

/-- A chat that starts twice and fails. -/
def chatNotices : List Notice :=
  [.started (.new "chat" .chat (.prompts ["hello"])),
    .started (.new "chat" .chat (.prompts ["again"])), .failed "chat" ⟨"out of time", none⟩]

/-- The chat starts before the plan and fails before it ends. -/
def planAndChat : List Notice :=
  chatNotices.take 1 ++ planNotices.take 3 ++ chatNotices.drop 1 ++ planNotices.drop 3

theorem apart_planNotices : Notice.Apart planNotices chatNotices where
  runs := by simp [planNotices, chatNotices, Notice.run, RunStart.new]
  parents := by simp [planNotices, chatNotices, Notice.run, Notice.parent?, RunStart.new]

theorem interleaved_planAndChat : Interleaved planNotices chatNotices planAndChat :=
  .right (.left (.left (.left (.right (.right (.left (.left .nil)))))))

def planRecorder : Recorder := ⟨"story", none, .perRun, false⟩

/-- The notices in a new session over an empty store. -/
def overEmptyStore (notices : List Notice) : List Exchange × Session RunMap (Watched Store) :=
  planRecorder.attendAll notices (session .empty (.counting ⟨0, 0⟩))

theorem streams_keep_apart_planAndChat :
    (Notice.Apart planNotices chatNotices ∧ Interleaved planNotices chatNotices planAndChat ∧
      Sink.AcceptsAll Store.empty ∧ (Supply.counting ⟨0, 0⟩).Fresh ∧
      planRecorder.policy = .perRun) ∧
    (overEmptyStore planAndChat).1.map (·.answer.written.toOption) =
      [some true, some true, some true, some true, some false, some true, some false, some true] ∧
    Undisturbed (Notice.concern planNotices) (overEmptyStore planAndChat)
      (overEmptyStore planNotices) ∧
    ∀ x ∈ planNotices, ∀ y ∈ chatNotices, ∀ traceId,
      (overEmptyStore planAndChat).2.state.traceId? x.run = some traceId →
        (overEmptyStore planAndChat).2.state.traceId? y.run ≠ some traceId := by
  have hAccepts := Store.acceptsAll .empty
  have hFresh := Supply.fresh_counting ⟨0, 0⟩
  have hRun : planRecorder.attendAll planAndChat (session .empty (.counting ⟨0, 0⟩)) =
    overEmptyStore planAndChat := rfl
  obtain ⟨hAlone, hTraces⟩ := streams_keep_apart planRecorder apart_planNotices
    interleaved_planAndChat hAccepts hFresh hRun
  exact ⟨⟨apart_planNotices, interleaved_planAndChat, hAccepts, hFresh, rfl⟩, by decide +kernel,
    (hAlone .empty hAccepts _ hFresh).1, hTraces rfl⟩

end Recorder

end StoryTrace
