import StoryTrace.Proofs.Interleaved
import StoryTrace.Proofs.Story.Neighbours
import StoryTrace.Proofs.Story.Steps

/-!
# Overlapping stories

Two stories that are made at the same time, on one board and over one sink, do not disturb each
other: however their steps are interleaved, every step is answered as if its story were made alone,
and the sink gets the same writes for the story.
-/

namespace StoryTrace.Orchestrator

variable {σ : Type}

/-! ## One story among others and alone -/

/-- The first session is the second one as far as the trace is concerned: on the board, and in what
was handed over. Both sinks accept every write. -/
structure Concurs [Sink σ] (t : String) (others : String → Prop)
    (s s' : Session StoryBoard (Watched σ)) : Prop where
  board : s.state.SameStory t others s'.state
  handed : s.sink.handovers.filter (fun h => h.write.traceId = t) = s'.sink.handovers
  accepting : Sink.AcceptsAll s.sink.sink
  accepting' : Sink.AcceptsAll s'.sink.sink

section

open Work

variable [Sink σ] {t : String} {others : String → Prop} {b b' c c' : StoryBoard}
  {w w' : Watched σ} {supply supply' later later' : Supply} {s' : Session StoryBoard (Watched σ)}

namespace Concurs

/-- The same write on both sides. -/
theorem both (h : Concurs t others ⟨b, w, supply⟩ ⟨b', w', supply'⟩)
    (hBoard : c.SameStory t others c') {x : Write} (hWrite : x.traceId = t) {sink sink' : σ}
    (hSink : Sink.AcceptsAll sink) (hSink' : Sink.AcceptsAll sink') :
    Concurs t others ⟨c, w.note sink [⟨x, none⟩], later⟩
      ⟨c', w'.note sink' [⟨x, none⟩], later'⟩ where
  board := hBoard
  handed := by
    have hBefore : w.handovers.filter (fun h => h.write.traceId = t) = w'.handovers := h.handed
    simp [Watched.note, hBefore, hWrite]
  accepting := hSink
  accepting' := hSink'

/-- A write for another trace, on the first side. -/
theorem other (h : Concurs t others ⟨b, w, supply⟩ s') (hBoard : c.SameStory t others s'.state)
    {x : Write} (hWrite : x.traceId ≠ t) {sink : σ} (hSink : Sink.AcceptsAll sink) :
    Concurs t others ⟨c, w.note sink [⟨x, none⟩], later⟩ s' where
  board := hBoard
  handed := by simpa [Watched.note, hWrite] using h.handed
  accepting := hSink
  accepting' := h.accepting'

/-- The same change of a span on both sides. -/
theorem revised (h : Concurs t others ⟨b, w, supply⟩ ⟨b', w', supply'⟩) (span : StorySpan) :
    Concurs t others ⟨b.setSpan span, w, later⟩ ⟨b'.setSpan span, w', later'⟩ :=
  ⟨h.board.setSpan span, h.handed, h.accepting, h.accepting'⟩

/-- A change of a span of another trace, on the first side. -/
theorem revisedOther (h : Concurs t others ⟨b, w, supply⟩ s') {span : StorySpan}
    (hOther : others span.id) : Concurs t others ⟨b.setSpan span, w, later⟩ s' :=
  ⟨h.board.setSpan_of_others hOther, h.handed, h.accepting, h.accepting'⟩

end Concurs

/-! ### A step of the story itself -/

/-- The work answers the same in both sessions, which agree again after it. -/
def Alike {α : Type} (t : String) (others : String → Prop)
    (work : Work StoryBoard (Watched σ) α) (s s' : Session StoryBoard (Watched σ)) : Prop :=
  work.Both work s s' fun answer r answer' r' => answer' = answer ∧ Concurs t others r r'

section

variable (h : Concurs t others ⟨b, w, supply⟩ ⟨b', w', supply⟩)
include h

theorem alike_createRoot (o : Orchestrator) {storyId : String} {sessionId traceId : Option String}
    {metadata : Metadata} (hTrace : traceId.getD supply.takeId.1 = t) :
    Alike t others (o.createRoot storyId sessionId traceId metadata)
      ⟨b, w, supply⟩ ⟨b', w', supply⟩ := by
  refine Both.bind (both_newId (.bind (both_newId (.bind (both_now (.bind (both_now
    (.bind (both_now (.bind (both_send_accepting h.accepting h.accepting' ?_)))))))))))
  intro sink sink' hSink hSink'
  refine .bind (both_change (both_pure ⟨rfl, h.both (h.board.setStory _) ?_ hSink hSink'⟩))
  exact hTrace

theorem alike_openSpan (hNamed : b.Named) (p : SpanPlan) :
    Alike t others (openSpan t p) ⟨b, w, supply⟩ ⟨b', w', supply⟩ := by
  refine Both.bind (both_state ?_)
  rw [← h.board.story]
  split
  case h_1 unknown => exact both_pure ⟨rfl, h⟩
  case h_2 story known =>
    refine .bind (both_newId (.bind (both_now (.bind (both_now (.bind (both_now (.bind (both_now
      (.bind (both_send_accepting h.accepting h.accepting' ?_)))))))))))
    intro sink sink' hSink hSink'
    refine .bind (both_change (both_pure ⟨rfl, h.both (h.board.addSpan ..) ?_ hSink hSink'⟩))
    exact (traceId_span ..).trans (hNamed t story known)

theorem alike_sendClosure {x : Closure} (hTrace : x.traceId = t) :
    Alike t others (sendClosure x) ⟨b, w, supply⟩ ⟨b', w', supply⟩ := by
  refine Both.bind (both_send_accepting h.accepting h.accepting' ?_)
  intro sink sink' hSink hSink'
  refine both_pure ⟨rfl, h.both h.board ?_ hSink hSink'⟩
  exact hTrace

theorem alike_setOutput {spanId : String} (hOwn : ¬ others spanId)
    (hKnown : ∀ known, b.spans.get? spanId = some known → known.traceId = t) (output : Json) :
    Alike t others (setOutput spanId output) ⟨b, w, supply⟩ ⟨b', w', supply⟩ := by
  refine Both.bind (both_state ?_)
  rw [← h.board.spans spanId hOwn]
  split
  case h_1 unknown => exact both_pure ⟨rfl, h⟩
  case h_2 known hHere =>
    extract_lets given
    split
    case h_1 time hEnded =>
      exact .bind (both_change (both_pure ⟨rfl, h.revised given⟩))
    case h_2 hOpen =>
      refine .bind (both_now (.bind (both_change (.bind (both_now ?_)))))
      exact alike_sendClosure (h.revised (given.finish _)) (hKnown known hHere)

theorem alike_setError {spanId : String} (hOwn : ¬ others spanId)
    (hKnown : ∀ known, b.spans.get? spanId = some known → known.traceId = t) (message : String) :
    Alike t others (setError spanId message) ⟨b, w, supply⟩ ⟨b', w', supply⟩ := by
  refine Both.bind (both_state ?_)
  rw [← h.board.spans spanId hOwn]
  split
  case h_1 unknown => exact both_pure ⟨rfl, h⟩
  case h_2 known hHere =>
    refine .bind (both_now (.bind (both_change ?_)))
    split
    case h_1 time hEnded => exact both_pure ⟨rfl, h.revised _⟩
    case h_2 hOpen =>
      refine .bind (both_now ?_)
      exact alike_sendClosure (h.revised (known.fail message _)) (hKnown known hHere)

theorem alike_link (externalId system : String) :
    Alike t others (link t externalId system) ⟨b, w, supply⟩ ⟨b', w', supply⟩ := by
  refine Both.bind (both_state ?_)
  rw [← h.board.story]
  split
  case h_1 unknown => exact both_pure ⟨rfl, h⟩
  case h_2 story known =>
    exact .bind (both_change (both_pure
      ⟨rfl, h.board.setStory _, h.handed, h.accepting, h.accepting'⟩))

theorem alike_finalize
    (hLists : ∀ story, b.active.get? t = some story → ∀ id ∈ story.spanIds, ¬ others id)
    (content : Option String) (metrics : Option StoryMetrics) :
    Alike t others (finalize t content metrics) ⟨b, w, supply⟩ ⟨b', w', supply⟩ := by
  refine Both.bind (both_state ?_)
  rw [← h.board.story]
  split
  case h_1 unknown => exact both_pure ⟨rfl, h⟩
  case h_2 story known =>
    rw [← funext (complete_eq h.board (hLists story known) content metrics)]
    refine .bind (both_now (.bind (both_send_accepting h.accepting h.accepting' ?_)))
    intro sink sink' hSink hSink'
    refine .bind (both_put (.bind (.discard (both_flush_accepting hSink hSink' ?_))))
    intro _ _ last last' hLast hLast'
    refine both_pure ⟨rfl, ?_⟩
    rw [Watched.note_note, Watched.note_note]
    exact h.both (h.board.remove story) rfl hLast hLast'

end

/-! ### A step of another story -/

section

variable {u : String} (hOther : u ≠ t) (h : Concurs t others ⟨b, w, supply⟩ s')
include hOther h

theorem concurs_createRoot (o : Orchestrator) {storyId : String} {sessionId traceId : Option String}
    {metadata : Metadata} (hTrace : traceId.getD supply.takeId.1 = u) :
    (o.createRoot storyId sessionId traceId metadata).Yields ⟨b, w, supply⟩ fun _ r =>
      Concurs t others r s' := by
  have hNe : traceId.getD supply.takeId.1 ≠ t := hTrace ▸ hOther
  refine .bind (yields_newId (.bind (yields_newId (.bind (yields_now (.bind (yields_now
    (.bind (yields_now (.bind (yields_send_accepting h.accepting ?_)))))))))))
  intro sink hSink
  refine .bind (yields_change (yields_pure (h.other (h.board.setStory_of_ne _ ?_) ?_ hSink)))
  · exact hNe
  · exact hNe

theorem concurs_openSpan (hNamed : b.Named) (p : SpanPlan) :
    (openSpan u p).Yields ⟨b, w, supply⟩ fun answer r =>
      (∀ id, answer = .ok id → others id) → Concurs t others r s' := by
  refine .bind (yields_state ?_)
  split
  case h_1 unknown => exact yields_pure fun _ => h
  case h_2 story known =>
    refine .bind (yields_newId (.bind (yields_now (.bind (yields_now (.bind (yields_now
      (.bind (yields_now (.bind (yields_send_accepting h.accepting ?_)))))))))))
    intro sink hSink
    refine .bind (yields_change (yields_pure fun hOpened => ?_))
    have hStory : story.traceId ≠ t := hNamed u story known ▸ hOther
    refine h.other (h.board.addSpan_of_others hStory ?_ _) ?_ hSink
    · exact (id_storySpan ..).symm ▸ hOpened _ rfl
    · exact (traceId_span ..).trans_ne hStory

omit hOther in
theorem concurs_sendClosure {x : Closure} (hTrace : x.traceId ≠ t) :
    (sendClosure x).Yields ⟨b, w, supply⟩ fun _ r => Concurs t others r s' := by
  refine .bind (yields_send_accepting h.accepting fun sink hSink => yields_pure ?_)
  refine h.other h.board ?_ hSink
  exact hTrace

omit hOther in
theorem concurs_setOutput {spanId : String} (hKnown : ∀ known, b.spans.get? spanId = some known →
      known.traceId ≠ t ∧ others known.id) (output : Json) :
    (setOutput spanId output).Yields ⟨b, w, supply⟩ fun _ r => Concurs t others r s' := by
  refine .bind (yields_state ?_)
  split
  case h_1 unknown => exact yields_pure h
  case h_2 known hHere =>
    obtain ⟨hTrace, hId⟩ := hKnown known hHere
    extract_lets given
    have hGiven : given.id = known.id := by cases output <;> rfl
    split
    case h_1 time hEnded =>
      exact .bind (yields_change (yields_pure (h.revisedOther (hGiven ▸ hId))))
    case h_2 hOpen =>
      refine .bind (yields_now (.bind (yields_change (.bind (yields_now
        (concurs_sendClosure (h.revisedOther ?_) ?_))))))
      · exact hGiven ▸ hId
      · exact hTrace

omit hOther in
theorem concurs_setError {spanId : String} (hKnown : ∀ known, b.spans.get? spanId = some known →
      known.traceId ≠ t ∧ others known.id) (message : String) :
    (setError spanId message).Yields ⟨b, w, supply⟩ fun _ r => Concurs t others r s' := by
  refine .bind (yields_state ?_)
  split
  case h_1 unknown => exact yields_pure h
  case h_2 known hHere =>
    obtain ⟨hTrace, hId⟩ := hKnown known hHere
    refine .bind (yields_now (.bind (yields_change ?_)))
    split
    case h_1 time hEnded => exact yields_pure (h.revisedOther hId)
    case h_2 hOpen =>
      refine .bind (yields_now (concurs_sendClosure (h.revisedOther ?_) ?_))
      · exact hId
      · exact hTrace

theorem concurs_link (hNamed : b.Named) (externalId system : String) :
    (link u externalId system).Yields ⟨b, w, supply⟩ fun _ r => Concurs t others r s' := by
  refine .bind (yields_state ?_)
  split
  case h_1 unknown => exact yields_pure h
  case h_2 story known =>
    have hStory : story.traceId ≠ t := hNamed u story known ▸ hOther
    exact .bind (yields_change (yields_pure
      ⟨h.board.setStory_of_ne _ hStory, h.handed, h.accepting, h.accepting'⟩))

theorem concurs_finalize (hNamed : b.Named)
    (hLists : ∀ story, b.active.get? u = some story → ∀ id ∈ story.spanIds, others id)
    (content : Option String) (metrics : Option StoryMetrics) :
    (finalize u content metrics).Yields ⟨b, w, supply⟩ fun _ r => Concurs t others r s' := by
  refine .bind (yields_state ?_)
  split
  case h_1 unknown => exact yields_pure h
  case h_2 story known =>
    refine .bind (yields_now (.bind (yields_send_accepting h.accepting fun sink hSink => ?_)))
    refine .bind (yields_put (.bind (.discard (yields_flush_accepting hSink ?_))))
    intro _ last hLast
    have hStory : story.traceId ≠ t := hNamed u story known ▸ hOther
    refine yields_pure ?_
    rw [Watched.note_note]
    refine h.other (h.board.remove_of_others hStory (hLists story known)) ?_ hLast
    exact hOther

end

end

/-! ## Two stories in one run -/

/-- The step is about the trace and revises no span of the other one. -/
structure Step.Keeps (done : List (Step × Reply)) (t u : String) (q : Step) : Prop where
  about : q.About t
  revises : ∀ id, q.revises? = some id → ¬ Opens done u id

/-- The steps are about two traces, the left ones about the first and the right ones about the
second, and no span was opened for both. -/
structure Apart (t u : String) (xs ys : List Step) (done : List (Step × Reply)) : Prop where
  traces : t ≠ u
  left : ∀ q ∈ xs, q.Keeps done t u
  right : ∀ q ∈ ys, q.Keeps done u t
  spans : ∀ id, Opens done t id → ¬ Opens done u id

section

variable [Sink σ] {t u : String} {done : List (Step × Reply)} {q : Step}
  {s s' s'' : Session StoryBoard (Watched σ)}

theorem Concurs.supplied {others : String → Prop} (h : Concurs t others s s')
    (supply supply' : Supply) :
    Concurs t others { s with supply } { s' with supply := supply' } :=
  ⟨h.board, h.handed, h.accepting, h.accepting'⟩

theorem Alike.map {others : String → Prop} {α β : Type} {work : Work StoryBoard (Watched σ) α}
    (h : Alike t others work s s') (f : α → β) : Alike t others (f <$> work) s s' :=
  ⟨congrArg f h.1, h.2⟩

omit [Sink σ] in
theorem Step.Keeps.traceId_eq (h : q.Keeps done t u)
    (hKeys : ∀ key id, Opens done key id → key = t ∨ key = u)
    (hBoard : s.state.Divided (Opens done)) {id : String} (hId : q.revises? = some id)
    {known : StorySpan} (hKnown : s.state.spans.get? id = some known) :
    known.traceId = t ∧ Opens done t known.id := by
  obtain ⟨rfl, hOpens⟩ := hBoard.spans id known hKnown
  rcases hKeys _ _ hOpens with hHere | hThere
  · exact ⟨hHere, hHere ▸ hOpens⟩
  · exact absurd (hThere ▸ hOpens) (h.revises _ hId)

/-- A step of the story itself. -/
theorem alike_take (o : Orchestrator) (hq : q.Keeps done t u)
    (hKeys : ∀ key id, Opens done key id → key = t ∨ key = u)
    (hSpans : ∀ id, Opens done t id → ¬ Opens done u id)
    (hBoard : s.state.Divided (Opens done)) (h : Concurs t (Opens done u) s s') :
    Alike t (Opens done u) (o.take q) s s' := by
  have hTrace {id : String} (hId : q.revises? = some id) (known : StorySpan)
      (hKnown : s.state.spans.get? id = some known) : known.traceId = t :=
    (hq.traceId_eq hKeys hBoard hId hKnown).1
  have hAbout := hq.about
  obtain ⟨deed, supply⟩ := q
  have hHere := h.supplied supply supply
  cases deed with
  | inject headers traceId parentId =>
      exact ⟨congrArg Reply.headers (inject_eq h.board hAbout headers parentId).symm, hHere⟩
  | call c =>
      refine Alike.map (α := Response) ?_ Reply.response
      cases c with
      | createRoot storyId sessionId traceId metadata =>
          exact (alike_createRoot hHere o hAbout).map Response.root
      | openSpan traceId span =>
          obtain rfl : traceId = t := hAbout
          exact (alike_openSpan hHere hBoard.named span.plan).map Response.span
      | setOutput spanId output =>
          exact (alike_setOutput hHere (hq.revises _ rfl) (hTrace rfl) output).map Response.done
      | setError spanId message =>
          exact (alike_setError hHere (hq.revises _ rfl) (hTrace rfl) message).map Response.done
      | link traceId externalId system =>
          obtain rfl : traceId = t := hAbout
          exact (alike_link hHere externalId system).map Response.linked
      | finalize traceId content metrics =>
          obtain rfl : traceId = t := hAbout
          refine (alike_finalize hHere ?_ content metrics).map Response.completed
          exact fun story known id hId => hSpans id (hBoard.lists _ story known id hId)

/-- A step of the other story. -/
theorem concurs_take (o : Orchestrator) (hOther : u ≠ t) (hq : q.Keeps done u t)
    (hKeys : ∀ key id, Opens done key id → key = u ∨ key = t)
    (hBoard : s.state.Divided (Opens done)) (hDone : (q, (o.take q s).1) ∈ done)
    (h : Concurs t (Opens done u) s s') : Concurs t (Opens done u) (o.take q s).2 s' := by
  have hKnown {id : String} (hId : q.revises? = some id) (known : StorySpan)
      (hHere : s.state.spans.get? id = some known) :
      known.traceId ≠ t ∧ Opens done u known.id := by
    obtain ⟨hTrace, hOpens⟩ := hq.traceId_eq hKeys hBoard hId hHere
    exact ⟨hTrace.trans_ne hOther, hOpens⟩
  have hAbout := hq.about
  obtain ⟨deed, supply⟩ := q
  have hHere := h.supplied supply s'.supply
  cases deed with
  | inject headers traceId parentId => exact hHere
  | call c =>
      cases c with
      | createRoot storyId sessionId traceId metadata =>
          exact concurs_createRoot hOther hHere o hAbout
      | openSpan traceId span =>
          obtain rfl : traceId = u := hAbout
          refine concurs_openSpan hOther hHere hBoard.named span.plan fun id hAnswer => ?_
          exact opens_of_mem hDone (congrArg (Reply.response ∘ Response.span) hAnswer)
      | setOutput spanId output => exact concurs_setOutput hHere (hKnown rfl) output
      | setError spanId message => exact concurs_setError hHere (hKnown rfl) message
      | link traceId externalId system =>
          obtain rfl : traceId = u := hAbout
          exact concurs_link hOther hHere hBoard.named externalId system
      | finalize traceId content metrics =>
          obtain rfl : traceId = u := hAbout
          exact concurs_finalize hOther hHere hBoard.named (hBoard.lists _) content metrics

theorem divided_take (o : Orchestrator) (hBoard : s.state.Divided (Opens done))
    (hDone : (q, (o.take q s).1) ∈ done) : (o.take q s).2.state.Divided (Opens done) := by
  obtain ⟨deed, supply⟩ := q
  cases deed with
  | inject headers traceId parentId => exact hBoard
  | call c =>
      refine (served_respond o c.request { s with supply }).divided hBoard ?_
      intro traceId plan id hRequest hResponse
      obtain ⟨span, rfl, -⟩ := Call.exists_of_request_openSpan hRequest
      exact opens_of_mem hDone (congrArg Reply.response hResponse)

/-- The run, and each of the two stories alone. -/
structure Alongside (done : List (Step × Reply)) (t u : String)
    (s s' s'' : Session StoryBoard (Watched σ)) : Prop where
  board : s.state.Divided (Opens done)
  left : Concurs t (Opens done u) s s'
  right : Concurs u (Opens done t) s s''

theorem Alongside.symm (h : Alongside done t u s s' s'') : Alongside done u t s s'' s' :=
  ⟨h.board, h.right, h.left⟩

/-- A step of the first story. -/
theorem Alongside.take (o : Orchestrator) (h : Alongside done t u s s' s'') (hNe : t ≠ u)
    (hq : q.Keeps done t u) (hKeys : ∀ key id, Opens done key id → key = t ∨ key = u)
    (hSpans : ∀ id, Opens done t id → ¬ Opens done u id) (hDone : (q, (o.take q s).1) ∈ done) :
    (o.take q s').1 = (o.take q s).1 ∧
      Alongside done t u (o.take q s).2 (o.take q s').2 s'' := by
  obtain ⟨hReply, hLeft⟩ := alike_take o hq hKeys hSpans h.board h.left
  have hRight := concurs_take o hNe hq hKeys h.board hDone h.right
  exact ⟨hReply, divided_take o h.board hDone, hLeft, hRight⟩

/-- Every reply in the run is the reply to the story alone, by induction on how the stories are
interleaved. -/
theorem takeAll_apart (o : Orchestrator) {xs ys zs : List Step} (hMixed : Interleaved xs ys zs)
    (hApart : Apart t u xs ys done) (hKeys : ∀ key id, Opens done key id → key = t ∨ key = u)
    (hDone : ∀ p ∈ (o.takeAll zs s).1, p ∈ done) (h : Alongside done t u s s' s'') :
    Interleaved (o.takeAll xs s').1 (o.takeAll ys s'').1 (o.takeAll zs s).1 ∧
      Alongside done t u (o.takeAll zs s).2 (o.takeAll xs s').2 (o.takeAll ys s'').2 := by
  induction hMixed generalizing s s' s'' with
  | nil => exact ⟨.nil, h⟩
  | @left q xs ys zs rest ih =>
      simp only [takeAll_cons] at hDone ⊢
      obtain ⟨hHere, hRest⟩ := List.forall_mem_cons.1 hDone
      obtain ⟨hq, hLeft⟩ := List.forall_mem_cons.1 hApart.left
      obtain ⟨hReply, hNext⟩ := h.take o hApart.traces hq hKeys hApart.spans hHere
      obtain ⟨hReplies, hLast⟩ := ih ⟨hApart.traces, hLeft, hApart.right, hApart.spans⟩ hRest hNext
      exact ⟨hReply ▸ hReplies.left, hLast⟩
  | @right q xs ys zs rest ih =>
      simp only [takeAll_cons] at hDone ⊢
      obtain ⟨hHere, hRest⟩ := List.forall_mem_cons.1 hDone
      obtain ⟨hq, hRight⟩ := List.forall_mem_cons.1 hApart.right
      obtain ⟨hReply, hNext⟩ := h.symm.take o hApart.traces.symm hq
        (fun key id hOpens => (hKeys key id hOpens).symm)
        (fun id hThere hHere => hApart.spans id hHere hThere) hHere
      obtain ⟨hReplies, hLast⟩ :=
        ih ⟨hApart.traces, hApart.left, hRight, hApart.spans⟩ hRest hNext.symm
      exact ⟨hReply ▸ hReplies.right, hLast⟩

theorem eq_or_eq_of_opens {o : Orchestrator} {xs ys zs : List Step}
    (hMixed : Interleaved xs ys zs) (hApart : Apart t u xs ys (o.takeAll zs s).1)
    {key id : String} (h : Opens (o.takeAll zs s).1 key id) : key = t ∨ key = u := by
  obtain ⟨p, hp, hOpened⟩ := List.mem_filterMap.1 h
  have hStep : p.1 ∈ zs := by
    rw [← map_takeAll o zs s]
    exact List.mem_map_of_mem hp
  obtain ⟨⟨span, supply, hOpen⟩, -⟩ := of_opened?_eq_some hOpened
  rw [hOpen] at hStep
  rcases hMixed.mem_iff.1 hStep with hLeft | hRight
  · exact .inl (hApart.left _ hLeft).about
  · exact .inr (hApart.right _ hRight).about

/-- Whatever is done with an orchestrator is a run of steps, and no id is opened for two traces if
the supply gives none twice. Let the steps of a run be about two traces, and let no span be opened
for one of them and revised or opened for the other one. Over a sink that accepts every write, each
step is replied to as in the run of its own story alone, in which the steps get the same ids and
clock readings, and what is handed over for each trace is what is handed over in that run. -/
theorem stories_keep_apart (o : Orchestrator) {sink : σ} (hAccepts : Sink.AcceptsAll sink)
    (supply : Supply) :
    (∀ {deeds : List Deed} {done : List (Step × Reply)} {s : Session StoryBoard (Watched σ)},
      o.takeAll (o.stepsOf deeds (session sink supply)) (session sink supply) = (done, s) →
        done.map (·.1.deed) = deeds ∧
        deeds.mapM o.perform (session sink supply) = (done.map (·.2), s) ∧
        (supply.Fresh → ∀ t u id, Opens done t id → Opens done u id → t = u)) ∧
    ∀ {t u : String} {xs ys zs : List Step} {left right done : List (Step × Reply)}
      {s' s'' s : Session StoryBoard (Watched σ)}, Interleaved xs ys zs →
      o.takeAll xs (session sink supply) = (left, s') →
      o.takeAll ys (session sink supply) = (right, s'') →
      o.takeAll zs (session sink supply) = (done, s) → Apart t u xs ys done →
        Interleaved left right done ∧
        s.sink.handovers.filter (fun h => h.write.traceId = t) = s'.sink.handovers ∧
        s.sink.handovers.filter (fun h => h.write.traceId = u) = s''.sink.handovers := by
  refine ⟨?steps, ?stories⟩
  case steps =>
    intro deeds done s hRun
    obtain ⟨hDeeds, hReplies, hSession⟩ := o.takeAll_stepsOf deeds (session sink supply)
    have hOpens := o.eq_of_opens deeds (s := session sink supply)
    rw [hRun] at hDeeds hReplies hSession hOpens
    exact ⟨hDeeds, Prod.ext hReplies.symm hSession.symm, fun hFresh _ _ _ => hOpens hFresh⟩
  case stories =>
    intro t u xs ys zs left right done s' s'' s hMixed hLeft hRight hRun hApart
    obtain rfl : (o.takeAll zs (session sink supply)).1 = done := congrArg Prod.fst hRun
    have hConcurs (key : String) (others : String → Prop) :
        Concurs key others (session sink supply) (session sink supply) :=
      ⟨.refl _, rfl, hAccepts, hAccepts⟩
    obtain ⟨hReplies, hLast⟩ := takeAll_apart o hMixed hApart
      (fun _ _ => eq_or_eq_of_opens hMixed hApart) (fun _ hp => hp)
      ⟨.empty _, hConcurs t _, hConcurs u _⟩
    rw [hLeft, hRight, hRun] at hReplies hLast
    exact ⟨hReplies, hLast.left.handed, hLast.right.handed⟩

end

section

/-- A step that gets the ids after the first ones. -/
def stepAfter (idsUsed : Nat) (deed : Deed) : Step :=
  ⟨deed, { Supply.counting ⟨0, 0⟩ with idsUsed }⟩

def duskSteps : List Step :=
  [stepAfter 0 (.call (.createRoot "dusk" none (some "t1") [])),
    stepAfter 4 (.call (.openSpan "t1" (.analysis "emotional" none none none))),
    stepAfter 6 (.call (.setOutput "iiii" (.object [("mood", .string "calm")]))),
    stepAfter 6 (.inject [] (some "t1") (some "iiii")),
    stepAfter 6 (.call (.finalize "t1" (some "Night fell.") none))]

def dawnSteps : List Step :=
  [stepAfter 2 (.call (.createRoot "dawn" none (some "t2") [])),
    stepAfter 5 (.call (.openSpan "t2" (.flow "f1" "langflow" none none none))),
    stepAfter 6 (.call (.link "t2" "x9" "flowise")),
    stepAfter 6 (.call (.setError "iiiii" "lost")),
    stepAfter 6 (.call (.finalize "t2" none none))]

/-- Both stories at once. The second one is finalized before a span of the first one is closed. -/
def daySteps : List Step :=
  [stepAfter 0 (.call (.createRoot "dusk" none (some "t1") [])),
    stepAfter 2 (.call (.createRoot "dawn" none (some "t2") [])),
    stepAfter 4 (.call (.openSpan "t1" (.analysis "emotional" none none none))),
    stepAfter 5 (.call (.openSpan "t2" (.flow "f1" "langflow" none none none))),
    stepAfter 6 (.call (.link "t2" "x9" "flowise")),
    stepAfter 6 (.call (.setError "iiiii" "lost")),
    stepAfter 6 (.call (.finalize "t2" none none)),
    stepAfter 6 (.call (.setOutput "iiii" (.object [("mood", .string "calm")]))),
    stepAfter 6 (.inject [] (some "t1") (some "iiii")),
    stepAfter 6 (.call (.finalize "t1" (some "Night fell.") none))]

/-- The steps, over an empty store. -/
def overStore (steps : List Step) : List (Step × Reply) × Session StoryBoard (Watched Store) :=
  takeAll ⟨none, "story"⟩ steps (session .empty (.counting ⟨0, 0⟩))

theorem stories_keep_apart_daySteps :
    Interleaved duskSteps dawnSteps daySteps ∧
    Apart "t1" "t2" duskSteps dawnSteps (overStore daySteps).1 ∧
    Interleaved (overStore duskSteps).1 (overStore dawnSteps).1 (overStore daySteps).1 ∧
    (overStore daySteps).2.sink.handovers.filter (fun h => h.write.traceId = "t1") =
      (overStore duskSteps).2.sink.handovers ∧
    (overStore duskSteps).2.sink.handovers.length = 4 := by
  have hMixed : Interleaved duskSteps dawnSteps daySteps :=
    .left (.right (.left (.right (.right (.right (.right (.left (.left (.left .nil)))))))))
  have hOpened : (overStore daySteps).1.filterMap opened? = [("t1", "iiii"), ("t2", "iiiii")] := by
    decide +kernel
  have hOpens (t id : String) : Opens (overStore daySteps).1 t id ↔
      t = "t1" ∧ id = "iiii" ∨ t = "t2" ∧ id = "iiiii" := by
    simp [Opens, hOpened]
  have hApart : Apart "t1" "t2" duskSteps dawnSteps (overStore daySteps).1 := by
    constructor
    case traces => decide
    case left =>
      have hAbout : ∀ q ∈ duskSteps, q.About "t1" := by simp [duskSteps, stepAfter, Step.About]
      have hRevises : ∀ q ∈ duskSteps, ∀ id, q.revises? = some id → id = "iiii" := by
        simp [duskSteps, stepAfter, Step.revises?, Call.request, Request.revises?]
      intro q hq
      exact ⟨hAbout q hq, fun id hId hOpen => by simp [hOpens, hRevises q hq id hId] at hOpen⟩
    case right =>
      have hAbout : ∀ q ∈ dawnSteps, q.About "t2" := by simp [dawnSteps, stepAfter, Step.About]
      have hRevises : ∀ q ∈ dawnSteps, ∀ id, q.revises? = some id → id = "iiiii" := by
        simp [dawnSteps, stepAfter, Step.revises?, Call.request, Request.revises?]
      intro q hq
      exact ⟨hAbout q hq, fun id hId hOpen => by simp [hOpens, hRevises q hq id hId] at hOpen⟩
    case spans => simp [hOpens]
  obtain ⟨-, hStories⟩ := stories_keep_apart ⟨none, "story"⟩ (Store.acceptsAll .empty)
    (.counting ⟨0, 0⟩)
  obtain ⟨hReplies, hHanded, -⟩ := hStories hMixed
    (Prod.eta (overStore duskSteps)).symm (Prod.eta (overStore dawnSteps)).symm
    (Prod.eta (overStore daySteps)).symm hApart
  exact ⟨hMixed, hApart, hReplies, hHanded, by decide +kernel⟩

end

end StoryTrace.Orchestrator
