import StoryTrace.Proofs.Story.Tally

/-!
# Tracked spans and the stories that list them

Every span that a story lists is tracked, and carries the trace of the story. The converse fails for
the spans of a story that was replaced: a second root for the trace takes its place on the board, no
story lists its spans from then on, and they are tracked for good.
-/

namespace StoryTrace

/-- Every listed span is tracked, and every tracked span is listed once, by the active story of its
trace and by no other one. -/
structure StoryBoard.InStep (b : StoryBoard) : Prop where
  named : ∀ t story, b.active.get? t = some story → story.traceId = t
  distinct : ∀ t story, b.active.get? t = some story → story.spanIds.Nodup
  tracked : ∀ t id, b.Lists t id → ∃ span, b.spans.get? id = some span
  listed : ∀ id span, b.spans.get? id = some span → ∀ t, b.Lists t id ↔ t = span.traceId

namespace Orchestrator

variable {σ : Type}

section

variable {dealings : List Dealing} {s : Session StoryBoard (Watched σ)}
  (h : Tallies dealings s)
include h

/-- A span is tracked unless its story was finalized. -/
theorem Tallies.tracked_iff {id : String} :
    (∃ span, s.state.spans.get? id = some span) ↔
      ∃ e ∈ openings dealings, e.id = id ∧ e.fate ≠ some .finalized := by
  constructor
  · rintro ⟨span, hSpan⟩
    obtain ⟨e, he, hNot, -, hId⟩ := (h.labels _ _).1 (StoryBoard.label?_of_get? hSpan)
    exact ⟨e, he, hId, hNot⟩
  · rintro ⟨e, he, rfl, hNot⟩
    obtain ⟨span, hSpan, -⟩ := Option.map_eq_some_iff.1 ((h.labels _ _).2 ⟨e, he, hNot, rfl, rfl⟩)
    exact ⟨span, hSpan⟩

theorem Tallies.traceId_of_tracked {e : Opening} (he : e ∈ openings dealings) {span : StorySpan}
    (hSpan : s.state.spans.get? e.id = some span) : span.traceId = e.traceId := by
  obtain ⟨f, hf, -, hLabel, hId⟩ := (h.labels _ _).1 (StoryBoard.label?_of_get? hSpan)
  rw [h.eq_of_id_eq hf he hId] at hLabel
  exact (congrArg SpanLabel.traceId hLabel).symm

theorem Tallies.not_lists_of_fate_ne_none {e : Opening} (he : e ∈ openings dealings)
    (hFate : e.fate ≠ none) (t : String) : ¬ s.state.Lists t e.id := by
  rw [h.lists_iff]
  rintro ⟨f, hf, hId, -, hOpen⟩
  rw [h.eq_of_id_eq hf he hId] at hOpen
  exact hFate hOpen

theorem Tallies.inStep_iff :
    s.state.InStep ↔ ∀ e ∈ openings dealings, e.fate ≠ some .replaced := by
  constructor
  · intro hStep e he hReplaced
    obtain ⟨span, hSpan⟩ := h.tracked_iff.2 ⟨e, he, rfl, by simp [hReplaced]⟩
    refine h.not_lists_of_fate_ne_none he (by simp [hReplaced]) span.traceId ?_
    exact (hStep.listed e.id span hSpan span.traceId).2 rfl
  · intro hNone
    refine ⟨fun t story => h.traceId_of_known, fun t story => h.nodup_spanIds, ?tracked, ?listed⟩
    case tracked =>
      intro t id hLists
      obtain ⟨e, he, hId, -, hOpen⟩ := h.lists_iff.1 hLists
      exact h.tracked_iff.2 ⟨e, he, hId, by simp [hOpen]⟩
    case listed =>
      intro id span hSpan t
      obtain ⟨e, he, rfl, hNot⟩ := h.tracked_iff.1 ⟨span, hSpan⟩
      have hOpen : e.fate = none := by
        cases hFate : e.fate with
        | none => rfl
        | some fate =>
            cases fate with
            | finalized => exact absurd hFate hNot
            | replaced => exact absurd hFate (hNone e he)
      rw [h.lists_iff, h.traceId_of_tracked he hSpan]
      constructor
      · rintro ⟨f, hf, hId, rfl, -⟩
        rw [h.eq_of_id_eq hf he hId]
      · rintro rfl
        exact ⟨e, he, rfl, rfl, hOpen⟩

end

/-- Whatever is called and refused, a span is tracked unless its story was finalized, and is listed
by the story of its trace as long as that story is being made. The board is in step exactly if no
story with spans was replaced; the spans of a replaced story are tracked for good and listed
nowhere. -/
theorem in_step_iff_none_replaced [Sink σ] (o : Orchestrator) (sink : σ) {supply : Supply}
    (hFresh : supply.Fresh) {calls : List Call} {dealings : List Dealing}
    {s : Session StoryBoard (Watched σ)}
    (hRun : o.dealAll calls (session sink supply) = (dealings, s)) :
    ((openings dealings).map (·.id)).Nodup ∧
    (∀ id, (∃ span, s.state.spans.get? id = some span) ↔
      ∃ e ∈ openings dealings, e.id = id ∧ e.fate ≠ some .finalized) ∧
    (∀ t id, s.state.Lists t id ↔
      ∃ e ∈ openings dealings, e.id = id ∧ e.traceId = t ∧ e.fate = none) ∧
    (∀ t id, s.state.Lists t id →
      ∃ span, s.state.spans.get? id = some span ∧ span.traceId = t) ∧
    (s.state.InStep ↔ ∀ e ∈ openings dealings, e.fate ≠ some .replaced) ∧
    ∀ e ∈ openings dealings, e.fate = some .replaced → ∀ more,
      (∃ span, (o.dealAll more s).2.state.spans.get? e.id = some span) ∧
      ∀ t, ¬ (o.dealAll more s).2.state.Lists t e.id := by
  have hTallies := tallies_of_dealAll hFresh hRun
  refine ⟨hTallies.distinct, fun _ => hTallies.tracked_iff, fun _ _ => hTallies.lists_iff, ?listed,
    hTallies.inStep_iff, ?replaced⟩
  case listed =>
    intro t id hLists
    obtain ⟨e, he, rfl, rfl, hOpen⟩ := hTallies.lists_iff.1 hLists
    obtain ⟨span, hSpan⟩ := hTallies.tracked_iff.2 ⟨e, he, rfl, by simp [hOpen]⟩
    exact ⟨span, hSpan, hTallies.traceId_of_tracked he hSpan⟩
  case replaced =>
    intro e he hFate more
    have hStill : e ∈ openings (dealings ++ (o.dealAll more s).1) :=
      mem_openings_append he (by simp [hFate]) _
    have hLater := hTallies.dealAll o more
    refine ⟨hLater.tracked_iff.2 ⟨e, hStill, rfl, by simp [hFate]⟩, ?_⟩
    exact hLater.not_lists_of_fate_ne_none hStill (by simp [hFate])

/-- A story with one span, and another story for its trace. -/
def begunTwice (between after : List Call) : List Dealing × Session StoryBoard (Watched Gate) :=
  dealAll ⟨none, "story"⟩
    ([.createRoot "dusk" none (some "t1") [],
        .openSpan "t1" (.analysis "emotional" none none none)] ++ between ++
      .createRoot "dawn" none (some "t1") [] :: after)
    (session Gate.start (.counting ⟨0, 0⟩))

theorem in_step_iff_none_replaced_begunTwice :
    (Supply.counting ⟨0, 0⟩).Fresh ∧
    (begunTwice [.finalize "t1" none none]
      [.openSpan "t1" (.analysis "thematic" none none none)]).2.state.InStep ∧
    ∀ more, ∃ span,
      (dealAll ⟨none, "story"⟩ more (begunTwice [] []).2).2.state.spans.get? "ii" = some span := by
  have hFresh := Supply.fresh_counting ⟨0, 0⟩
  have hFates : (openings (begunTwice [.finalize "t1" none none]
      [.openSpan "t1" (.analysis "thematic" none none none)]).1).map (·.fate) =
        [some .finalized, none] := by
    decide +kernel
  have hReplaced : (openings (begunTwice [] []).1).map (fun e => (e.id, e.fate)) =
      [("ii", some .replaced)] := by
    decide +kernel
  obtain ⟨-, -, -, -, hInStep, -⟩ := in_step_iff_none_replaced ⟨none, "story"⟩ Gate.start hFresh
    (Prod.eta (begunTwice [.finalize "t1" none none]
      [.openSpan "t1" (.analysis "thematic" none none none)])).symm
  obtain ⟨-, -, -, -, -, hLeft⟩ := in_step_iff_none_replaced ⟨none, "story"⟩ Gate.start hFresh
    (Prod.eta (begunTwice [] [])).symm
  refine ⟨hFresh, hInStep.2 ?_, ?_⟩
  · intro e he hFate
    have hMem := List.mem_map_of_mem (f := Opening.fate) he
    rw [hFates, hFate] at hMem
    simp at hMem
  · intro more
    have hMem : ("ii", some Fate.replaced) ∈
        (openings (begunTwice [] []).1).map (fun e => (e.id, e.fate)) := by
      rw [hReplaced]
      exact List.mem_singleton_self _
    obtain ⟨e, he, hIs⟩ := List.mem_map.1 hMem
    obtain ⟨hId, hFate⟩ := Prod.mk.inj hIs
    exact hId ▸ (hLeft e he hFate more).1

/-- No story is active, and the span of the first one is still tracked. -/
theorem tracked_without_active_story :
    (begunTwice [] [.finalize "t1" none none]).2.state.active = [] ∧
    (begunTwice [] [.finalize "t1" none none]).2.state.spans.keys = ["ii"] ∧
    ¬ (begunTwice [] [.finalize "t1" none none]).2.state.InStep := by
  have hActive : (begunTwice [] [.finalize "t1" none none]).2.state.active = [] := by
    decide +kernel
  have hTrace : ((begunTwice [] [.finalize "t1" none none]).2.state.spans.get? "ii").map
      (·.traceId) = some "t1" := by
    decide +kernel
  refine ⟨hActive, by decide +kernel, fun hStep => ?_⟩
  obtain ⟨span, hSpan, hOwn⟩ := Option.map_eq_some_iff.1 hTrace
  obtain ⟨story, known, -⟩ := (hStep.listed "ii" span hSpan "t1").2 hOwn.symm
  rw [hActive] at known
  cases known

end Orchestrator

end StoryTrace
