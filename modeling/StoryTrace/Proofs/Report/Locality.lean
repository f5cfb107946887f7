import Mathlib.Data.List.ReduceOption
import StoryTrace.Proofs.Store.Sublog
import StoryTrace.Report.Render

/-!
# Renderings of single traces

What is rendered of a trace is what the events about it make when they are rendered alone, however
they were interleaved with others. The rendering of a whole log is put together from the renderings
of its traces, in the order of their creation.
-/

namespace StoryTrace

namespace Report

variable {s s' : Store} {traces : List Trace} {format : RenderFormat}

/-- The rendering of a trace that tells the story with the given section, or none. -/
def storyRendering : Option String → Except RenderError String
  | some text => .ok text
  | none => .error .noStories

/-- The renderings of single traces make up the rendering of them all. -/
inductive Composed :
    RenderFormat → List (Except RenderError String) → Except RenderError String → Prop
  | tree (sections : List String) :
    Composed .tree (sections.map .ok) (.ok (joinSections sections))
  /-- A single trace is an array with one item. -/
  | json (items : List Json) :
    Composed .json (items.map fun item => .ok (Json.array [item]).pretty)
      (.ok (Json.array items).pretty)
  /-- Traces that tell no story are left out, unless no trace tells one. -/
  | stories {format : RenderFormat} (noTree : format ≠ .tree) (noJson : format ≠ .json)
      (told : List (Option String)) :
    Composed format (told.map storyRendering)
      (match told.reduceOption with
        | [] => .error .noStories
        | sections => .ok (joinSections sections))

/-! ## Traces of a store -/

@[simp] theorem joinSections_singleton (text : String) : joinSections [text] = text := rfl

theorem canonical_array (items : List Json) :
    (Json.array items).canonical = .array (items.map Json.canonical) := by
  have hItems : Json.canonicalItems items = items.map Json.canonical := by
    induction items with
    | nil => rfl
    | cons v rest ih => rw [Json.canonicalItems, ih, List.map_cons]
  rw [Json.canonical, hItems]

/-- A rendering reads no spans but those of the rendered traces. -/
theorem renderTraces_congr (h : ∀ t ∈ traces, s.spansOf t.id = s'.spansOf t.id)
    (format : RenderFormat) : renderTraces s format traces = renderTraces s' format traces := by
  have hTrees : traces.map (treeSection s) = traces.map (treeSection s') := by
    apply List.map_congr_left
    intro t ht
    rw [treeSection, treeSection, Store.forest, Store.forest, h t ht]
  have hItems : traces.map (traceJson s) = traces.map (traceJson s') := by
    apply List.map_congr_left
    intro t ht
    rw [traceJson, traceJson, Store.forest, Store.forest, h t ht]
  have hStories : stories s traces = stories s' traces := by
    refine congrArg (List.filter _) (List.map_congr_left ?_)
    intro t ht
    rw [h t ht]
  simp only [renderTraces, hTrees, hItems, hStories]

/-- The section of the story that a trace tells, if it tells one. -/
def storySection? (s : Store) (format : RenderFormat) (t : Trace) : Option String :=
  (stories s [t]).head?.map (storySection format)

theorem stories_cons (s : Store) (t : Trace) (rest : List Trace) :
    stories s (t :: rest) = (stories s [t]).head?.toList ++ stories s rest := by
  simp only [stories, List.map_cons, List.map_nil]
  cases h : !(CompletedStory.ofRecords t (s.spansOf t.id)).spans.isEmpty <;> simp [h]

theorem map_storySection_stories (s : Store) (format : RenderFormat) (traces : List Trace) :
    (stories s traces).map (storySection format) =
      (traces.map (storySection? s format)).reduceOption := by
  induction traces with
  | nil => rfl
  | cons t rest ih =>
      rw [stories_cons, List.map_append, ih, List.map_cons, storySection?]
      cases (stories s [t]).head? <;> rfl

theorem renderTraces_stories (hTree : format ≠ .tree) (hJson : format ≠ .json)
    (hTraces : traces ≠ []) :
    renderTraces s format traces =
      match (traces.map (storySection? s format)).reduceOption with
      | [] => .error .noStories
      | sections => .ok (joinSections sections) := by
  rw [← map_storySection_stories]
  cases traces with
  | nil => exact absurd rfl hTraces
  | cons t rest =>
      cases format with
      | tree => exact absurd rfl hTree
      | json => exact absurd rfl hJson
      | timeline | markdown | arcs | suggestions =>
          simp only [renderTraces]
          cases stories s (t :: rest) <;> rfl

theorem renderTraces_singleton_stories (hTree : format ≠ .tree) (hJson : format ≠ .json)
    (t : Trace) : renderTraces s format [t] = storyRendering (storySection? s format t) := by
  rw [renderTraces_stories hTree hJson (List.cons_ne_nil _ _)]
  cases h : storySection? s format t with
  | none => simp [h, storyRendering]
  | some text => simp [h, storyRendering]

theorem composed_renderTraces (s : Store) (format : RenderFormat) (hTraces : traces ≠ []) :
    Composed format (traces.map fun t => renderTraces s format [t])
      (renderTraces s format traces) := by
  have hSome : traces.isEmpty = false := List.isEmpty_eq_false_iff.2 hTraces
  by_cases hTree : format = .tree
  · subst hTree
    simpa [renderTraces, hSome, Function.comp_def] using
      Composed.tree (traces.map (treeSection s))
  by_cases hJson : format = .json
  · subst hJson
    simpa [renderTraces, hSome, canonical_array, Function.comp_def] using
      Composed.json (traces.map fun t => (traceJson s t).canonical)
  rw [renderTraces_stories hTree hJson hTraces]
  simpa only [renderTraces_singleton_stories hTree hJson, List.map_map, Function.comp_def] using
    Composed.stories hTree hJson (traces.map (storySection? s format))

/-! ## Logs -/

theorem render_eq_renderTraces (now : Instant) (events : List Event) (format : RenderFormat) :
    render now events format none =
      renderTraces (Store.replay now events) format (Store.replay now events).traces := by
  have hAll (traces : List Trace) : traces.filter (wanted none) = traces :=
    List.filter_eq_self.2 fun _ _ => rfl
  simp only [render, hAll]

theorem render_some_eq (now : Instant) {events : List Event}
    (hAgreeing : Event.Agreeing events) (format : RenderFormat) (traceId : String) :
    render now events format (some traceId) =
      render now (events.filter (·.isAbout traceId)) format none := by
  rw [render_eq_renderTraces]
  change renderTraces (Store.replay now events) format
      ((Store.replay now events).traces.filter (·.id == traceId)) =
    renderTraces (Store.replayAbout now traceId events) format
      (Store.replayAbout now traceId events).traces
  rw [Store.traces_replayAbout]
  apply renderTraces_congr
  intro t ht
  obtain rfl : t.id = traceId := beq_iff_eq.1 (List.mem_filter.1 ht).2
  rw [Store.spansOf, Store.spansOf, Store.spans_replayAbout now t.id hAgreeing, Store.spansOf,
    List.filter_filter]
  simp only [Bool.and_self]

theorem nodup_traces_replay (now : Instant) (events : List Event) :
    ((Store.replay now events).traces.map (·.id)).Nodup := by
  rw [Store.map_id_traces_replay]
  exact nodup_eraseDups _

theorem filter_id_eq_singleton (hNodup : (traces.map (·.id)).Nodup) {t : Trace}
    (ht : t ∈ traces) : traces.filter (·.id == t.id) = [t] := by
  induction traces with
  | nil => cases ht
  | cons first rest ih =>
      rw [List.map_cons, List.nodup_cons] at hNodup
      rcases List.mem_cons.1 ht with rfl | hRest
      · rw [List.filter_cons, if_pos (beq_self_eq_true t.id), List.filter_eq_nil_iff.2]
        intro other hOther hId
        rw [← beq_iff_eq.1 hId] at hNodup
        exact hNodup.1 (List.mem_map_of_mem hOther)
      · have hFirst : ¬ (first.id == t.id) = true := by
          rintro hId
          rw [beq_iff_eq.1 hId] at hNodup
          exact hNodup.1 (List.mem_map_of_mem hRest)
        rw [List.filter_cons, if_neg hFirst, ih hNodup.2 hRest]

theorem render_some_of_mem (now : Instant) {events : List Event} (format : RenderFormat)
    {t : Trace} (ht : t ∈ (Store.replay now events).traces) :
    render now events format (some t.id) =
      renderTraces (Store.replay now events) format [t] :=
  congrArg (renderTraces _ format) (filter_id_eq_singleton (nodup_traces_replay now events) ht)

/-- Two traces whose spans are created and closed in turn. -/
def interleavedLog : List Event :=
  [.ofTrace (.new "t1" "north" ⟨0, 0⟩) "e1" ⟨0, 0⟩,
    .ofSpan (.new "s1" "t1" "search" ⟨1, 0⟩) "e2" ⟨1, 0⟩,
    .ofTrace (.new "t2" "south" ⟨1, 0⟩) "e3" ⟨1, 0⟩,
    .ofSpan (.new "s2" "t2" "plan" ⟨2, 0⟩) "e4" ⟨2, 0⟩,
    .ofClosure (.failed "s1" "t1" "out of time" none ⟨3, 0⟩) "e5" ⟨3, 0⟩,
    .ofSpan { Span.new "s3" "t2" "write" ⟨3, 0⟩ with parentId := some "s2" } "e6" ⟨3, 0⟩]

end Report

end StoryTrace
