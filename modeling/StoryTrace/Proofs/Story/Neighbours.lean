import StoryTrace.Proofs.Story.Failing

/-!
# Stories side by side

Stories share one board, where a span is found by its id alone. What belongs to each trace is its
story and the spans that were opened for it. A change that is about one trace leaves alone what
belongs to another one, and two boards that agree on a trace still agree on it when the same change
is made to both.
-/

namespace StoryTrace

namespace StoryBoard

/-- Every story stands under its trace and lists spans of that trace only, and every span stands
under its id and belongs to its trace. -/
structure Divided (owns : String → String → Prop) (b : StoryBoard) : Prop where
  named : b.Named
  lists : ∀ traceId story, b.active.get? traceId = some story →
    ∀ id ∈ story.spanIds, owns traceId id
  spans : ∀ id span, b.spans.get? id = some span → span.id = id ∧ owns span.traceId id

/-- The boards have the same story of the trace, and the same spans but for those that belong to
others. -/
structure SameStory (traceId : String) (others : String → Prop) (b b' : StoryBoard) : Prop where
  story : b.active.get? traceId = b'.active.get? traceId
  spans : ∀ id, ¬ others id → b.spans.get? id = b'.spans.get? id

theorem addSpan_eq (b : StoryBoard) (a : ActiveStory) (span : StorySpan) (visits : Option String) :
    ∃ correlation, b.addSpan a span visits =
      (b.setStory { a with spanIds := a.spanIds ++ [span.id], correlation }).setSpan span :=
  ⟨_, rfl⟩

namespace Divided

variable {owns : String → String → Prop} {b : StoryBoard}

theorem empty (owns : String → String → Prop) : StoryBoard.empty.Divided owns where
  named _ _ h := by cases h
  lists _ _ h := by cases h
  spans _ _ h := by cases h

theorem setStory (h : b.Divided owns) {a : ActiveStory}
    (hIds : ∀ id ∈ a.spanIds, owns a.traceId id) : (b.setStory a).Divided owns where
  named := h.named.put a rfl
  lists traceId story hStory := by
    rw [StoryBoard.setStory, Table.get?_put] at hStory
    split at hStory
    case isTrue hHere =>
      obtain rfl := Option.some.inj hStory
      exact hHere ▸ hIds
    case isFalse => exact h.lists traceId story hStory
  spans := h.spans

theorem setSpan (h : b.Divided owns) {span : StorySpan} (hOwns : owns span.traceId span.id) :
    (b.setSpan span).Divided owns where
  named := h.named
  lists := h.lists
  spans id other hOther := by
    rw [StoryBoard.setSpan, Table.get?_put] at hOther
    split at hOther
    case isTrue hHere =>
      obtain rfl := Option.some.inj hOther
      exact ⟨hHere, hHere ▸ hOwns⟩
    case isFalse => exact h.spans id other hOther

theorem addSpan (h : b.Divided owns) {a : ActiveStory} (hIds : ∀ id ∈ a.spanIds, owns a.traceId id)
    {span : StorySpan} (hTrace : span.traceId = a.traceId) (hOwns : owns a.traceId span.id)
    (visits : Option String) : (b.addSpan a span visits).Divided owns := by
  obtain ⟨correlation, hEq⟩ := b.addSpan_eq a span visits
  rw [hEq]
  exact (h.setStory (List.forall_mem_append.2 ⟨hIds, List.forall_mem_singleton.2 hOwns⟩)).setSpan
    (hTrace ▸ hOwns)

theorem remove (h : b.Divided owns) (a : ActiveStory) : (b.remove a).Divided owns where
  named := h.named.remove a
  lists traceId story hStory := by
    rw [StoryBoard.remove, Table.get?_erase] at hStory
    split at hStory
    case isTrue => cases hStory
    case isFalse => exact h.lists traceId story hStory
  spans id span hSpan := by
    rw [StoryBoard.remove, Table.get?_foldl_erase] at hSpan
    split at hSpan
    case isTrue => cases hSpan
    case isFalse => exact h.spans id span hSpan

end Divided

namespace SameStory

variable {t : String} {others : String → Prop} {b b' : StoryBoard}

theorem refl (b : StoryBoard) : SameStory t others b b := ⟨rfl, fun _ _ => rfl⟩

/-! ### The same change on both boards -/

theorem setStory (h : SameStory t others b b') (a : ActiveStory) :
    SameStory t others (b.setStory a) (b'.setStory a) where
  story := by simp only [StoryBoard.setStory, Table.get?_put, h.story]
  spans := h.spans

theorem setSpan (h : SameStory t others b b') (span : StorySpan) :
    SameStory t others (b.setSpan span) (b'.setSpan span) where
  story := h.story
  spans id hId := by simp only [StoryBoard.setSpan, Table.get?_put, h.spans id hId]

theorem addSpan (h : SameStory t others b b') (a : ActiveStory) (span : StorySpan)
    (visits : Option String) :
    SameStory t others (b.addSpan a span visits) (b'.addSpan a span visits) :=
  (h.setStory { a with spanIds := a.spanIds ++ [span.id], correlation := _ }).setSpan span

theorem remove (h : SameStory t others b b') (a : ActiveStory) :
    SameStory t others (b.remove a) (b'.remove a) where
  story := by simp only [StoryBoard.remove, Table.get?_erase, h.story]
  spans id hId := by simp only [StoryBoard.remove, Table.get?_foldl_erase, h.spans id hId]

/-! ### A change for another trace -/

theorem setStory_of_ne (h : SameStory t others b b') (a : ActiveStory) (hOther : a.traceId ≠ t) :
    SameStory t others (b.setStory a) b' where
  story := by
    rw [StoryBoard.setStory, Table.get?_put, if_neg hOther]
    exact h.story
  spans := h.spans

theorem setSpan_of_others (h : SameStory t others b b') {span : StorySpan}
    (hOther : others span.id) : SameStory t others (b.setSpan span) b' where
  story := h.story
  spans id hId := by
    have hNe : span.id ≠ id := fun hEq => hId (hEq ▸ hOther)
    rw [StoryBoard.setSpan, Table.get?_put, if_neg hNe]
    exact h.spans id hId

theorem addSpan_of_others (h : SameStory t others b b') {a : ActiveStory} (hStory : a.traceId ≠ t)
    {span : StorySpan} (hSpan : others span.id) (visits : Option String) :
    SameStory t others (b.addSpan a span visits) b' := by
  obtain ⟨correlation, hEq⟩ := b.addSpan_eq a span visits
  rw [hEq]
  exact (h.setStory_of_ne { a with spanIds := a.spanIds ++ [span.id], correlation }
    hStory).setSpan_of_others hSpan

theorem remove_of_others (h : SameStory t others b b') {a : ActiveStory} (hStory : a.traceId ≠ t)
    (hSpans : ∀ id ∈ a.spanIds, others id) : SameStory t others (b.remove a) b' where
  story := by
    rw [StoryBoard.remove, Table.get?_erase, if_neg (Ne.symm hStory)]
    exact h.story
  spans id hId := by
    have hMem : id ∉ a.spanIds := fun hMem => hId (hSpans id hMem)
    rw [StoryBoard.remove, Table.get?_foldl_erase, if_neg hMem]
    exact h.spans id hId

/-! ### What is read from the board -/

theorem spansOf_eq (h : SameStory t others b b') {a : ActiveStory}
    (hIds : ∀ id ∈ a.spanIds, ¬ others id) : b.spansOf a = b'.spansOf a :=
  List.filterMap_congr fun id hId => h.spans id (hIds id hId)

end SameStory

end StoryBoard

namespace Orchestrator

variable {σ : Type} {owns : String → String → Prop} {b b' : StoryBoard} {t : String}
  {others : String → Prop}

theorem complete_eq (h : b.SameStory t others b') {story : ActiveStory}
    (hIds : ∀ id ∈ story.spanIds, ¬ others id) (content : Option String)
    (metrics : Option StoryMetrics) (now : Instant) :
    complete b story content metrics now = complete b' story content metrics now := by
  simp only [complete, h.spansOf_eq hIds]

theorem inject_eq (h : b.SameStory t others b') {traceId : Option String}
    (hTrace : ∀ key, traceId = some key → key = t) (headers : Headers) (parentId : Option String) :
    inject b headers traceId parentId = inject b' headers traceId parentId := by
  cases traceId with
  | none => rfl
  | some key =>
      obtain rfl := hTrace key rfl
      simp only [inject, Option.bind_some, h.story]

theorem traceId_span (p : SpanPlan) (a : ActiveStory) (id : String) (started ended : Instant) :
    (p.span a id started ended).traceId = a.traceId := by
  unfold SpanPlan.span
  cases p.output <;> rfl

theorem traceId_storySpan (p : SpanPlan) (a : ActiveStory) (id : String) (started ended : Instant) :
    (p.storySpan a id started ended).traceId = a.traceId := by
  unfold SpanPlan.storySpan
  cases p.output <;> rfl

/-- A request keeps the board divided if the span that it opens belongs to its trace. -/
theorem Served.divided {o : Orchestrator} {q : Request} {response : Response}
    {s s' : Session StoryBoard (Watched σ)} (hServed : Served o s q response s')
    (h : s.state.Divided owns) (hOpened : ∀ traceId plan id, q = .openSpan traceId plan →
      response = .span (.ok id) → owns traceId id) : s'.state.Divided owns := by
  have hRevised {id : String} {known changed : StorySpan} (same : Revises changed known)
      (hKnown : s.state.spans.get? id = some known) : owns changed.traceId changed.id := by
    obtain ⟨rfl, hOwns⟩ := h.spans id known hKnown
    rwa [same.traceId, same.id]
  cases hServed with
  | rootCreated isRoot _ _ => exact h.setStory (isRoot.spanIds ▸ List.forall_mem_nil _)
  | @spanOpened traceId plan story _ _ first last _ _ known _ =>
      have hNamed : story.traceId = traceId := h.named traceId story known
      refine h.addSpan (hNamed ▸ h.lists traceId story known) (traceId_storySpan ..) ?_ plan.visits
      rw [id_storySpan, hNamed]
      exact hOpened traceId plan _ rfl rfl
  | revised _ hKnown same _ _ _ => exact h.setSpan (hRevised same hKnown)
  | closed _ hKnown same _ _ _ _ _ => exact h.setSpan (hRevised same hKnown)
  | @linked traceId _ _ story known =>
      have hNamed : story.traceId = traceId := h.named traceId story known
      exact h.setStory (hNamed ▸ h.lists traceId story known)
  | finalized known _ _ => exact h.remove _
  | _ => exact h

end Orchestrator

end StoryTrace
