import Mathlib.Data.List.Basic
import StoryTrace.Proofs.Table
import StoryTrace.Story.Orchestrator

/-!
# Views of a board

What a board says about each trace and about each span, apart from what is revised while a story is
being made: one equation for each change of a board and each view.
-/

namespace StoryTrace

/-- A story without the systems that it has come to. -/
structure StoryOutline where
  traceId : String
  storyId : String
  sessionId : String
  spanIds : List String

def ActiveStory.outline (a : ActiveStory) : StoryOutline :=
  ⟨a.traceId, a.storyId, a.sessionId, a.spanIds⟩

/-- What of a span never changes. -/
structure SpanLabel where
  id : String
  traceId : String
  kind : StoryKind

def StorySpan.label (s : StorySpan) : SpanLabel := ⟨s.id, s.traceId, s.kind⟩

namespace StoryBoard

def outline? (b : StoryBoard) (traceId : String) : Option StoryOutline :=
  (b.active.get? traceId).map ActiveStory.outline

def label? (b : StoryBoard) (id : String) : Option SpanLabel :=
  (b.spans.get? id).map StorySpan.label

/-- The active story of the trace lists the span. -/
def Lists (b : StoryBoard) (traceId id : String) : Prop :=
  ∃ story, b.active.get? traceId = some story ∧ id ∈ story.spanIds

section

variable (b : StoryBoard) (a : ActiveStory) (span : StorySpan) (traceId id : String)

theorem outline?_setStory : (b.setStory a).outline? traceId =
    if a.traceId = traceId then some a.outline else b.outline? traceId := by
  rw [outline?, setStory, Table.get?_put, apply_ite (Option.map ActiveStory.outline)]
  rfl

theorem label?_setSpan : (b.setSpan span).label? id =
    if span.id = id then some span.label else b.label? id := by
  rw [label?, setSpan, Table.get?_put, apply_ite (Option.map StorySpan.label)]
  rfl

theorem outline?_addSpan (visits : Option String) : (b.addSpan a span visits).outline? traceId =
    if a.traceId = traceId then some { a.outline with spanIds := a.spanIds ++ [span.id] }
    else b.outline? traceId :=
  b.outline?_setStory { a with spanIds := a.spanIds ++ [span.id], correlation := _ } traceId

theorem label?_addSpan (visits : Option String) : (b.addSpan a span visits).label? id =
    if span.id = id then some span.label else b.label? id := b.label?_setSpan span id

theorem outline?_remove : (b.remove a).outline? traceId =
    if traceId = a.traceId then none else b.outline? traceId := by
  rw [outline?, remove, Table.get?_erase, apply_ite (Option.map ActiveStory.outline)]
  rfl

theorem label?_remove : (b.remove a).label? id =
    if id ∈ a.spanIds then none else b.label? id := by
  rw [label?, remove, Table.get?_foldl_erase, apply_ite (Option.map StorySpan.label)]
  rfl

end

variable {b : StoryBoard} {traceId id : String}

theorem outline?_of_get? {story : ActiveStory} (h : b.active.get? traceId = some story) :
    b.outline? traceId = some story.outline := congrArg (Option.map ActiveStory.outline) h

theorem label?_of_get? {span : StorySpan} (h : b.spans.get? id = some span) :
    b.label? id = some span.label := congrArg (Option.map StorySpan.label) h

theorem lists_iff :
    b.Lists traceId id ↔ ∃ a, b.outline? traceId = some a ∧ id ∈ a.spanIds := by
  constructor
  · rintro ⟨story, known, hId⟩
    exact ⟨story.outline, outline?_of_get? known, hId⟩
  · rintro ⟨a, hOutline, hId⟩
    obtain ⟨story, known, rfl⟩ := Option.map_eq_some_iff.1 hOutline
    exact ⟨story, known, hId⟩

theorem get?_spans_eq_none_iff : b.spans.get? id = none ↔ b.label? id = none := by
  simp [label?]

theorem get?_active_eq_none_iff : b.active.get? traceId = none ↔ b.outline? traceId = none := by
  simp [outline?]

/-- The spans of a story are the ones that it lists, if these are tracked. -/
theorem map_label_spansOf {story : ActiveStory} {labels : List SpanLabel}
    (hIds : story.spanIds = labels.map (·.id)) (h : ∀ l ∈ labels, b.label? l.id = some l) :
    (b.spansOf story).map StorySpan.label = labels := by
  have hGet : (fun l : SpanLabel => (b.spans.get? l.id).map StorySpan.label) =
      fun l => b.label? l.id := rfl
  rw [spansOf, hIds, List.filterMap_map, List.map_filterMap]
  simp only [Function.comp_apply]
  rw [hGet, List.filterMap_congr h]
  exact List.filterMap_some

end StoryBoard

end StoryTrace
