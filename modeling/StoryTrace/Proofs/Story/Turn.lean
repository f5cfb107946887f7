import StoryTrace.Proofs.Story.Requests
import StoryTrace.Proofs.Table

/-!
# Turns of an orchestrator

A request leaves the tracked spans as open and as closed as they were, or it opens one span, or it
ends one and offers a closure for it.
-/

namespace StoryTrace

namespace StoryBoard

/-- Every span of the board stands under its id. -/
def Keyed (b : StoryBoard) : Prop := ∀ id span, b.spans.get? id = some span → span.id = id

/-- The spans of the second board are on the first one, and ended there if they are here. -/
def KeepsEnds (b b' : StoryBoard) : Prop :=
  ∀ id span', b'.spans.get? id = some span' →
    ∃ span, b.spans.get? id = some span ∧ span'.id = span.id ∧
      (span'.endTime = none ↔ span.endTime = none)

variable {b b' : StoryBoard}

theorem KeepsEnds.of_spans_eq (h : b'.spans = b.spans) : b.KeepsEnds b' := by
  intro id span hSpan
  rw [h] at hSpan
  exact ⟨span, hSpan, rfl, Iff.rfl⟩

theorem KeepsEnds.setSpan {known changed : StorySpan} (h : b.spans.get? known.id = some known)
    (hId : changed.id = known.id) (hEnds : changed.endTime = none ↔ known.endTime = none) :
    b.KeepsEnds (b.setSpan changed) := by
  intro id span hSpan
  simp only [StoryBoard.setSpan, Table.get?_put, hId] at hSpan
  split at hSpan
  case isTrue hHere =>
    obtain rfl := Option.some.inj hSpan
    exact ⟨known, hHere ▸ h, hId, hEnds⟩
  case isFalse => exact ⟨span, hSpan, rfl, Iff.rfl⟩

theorem Keyed.of_keepsEnds (h : b.Keyed) (ends : b.KeepsEnds b') : b'.Keyed := by
  intro id span hSpan
  obtain ⟨old, hOld, hId, -⟩ := ends id span hSpan
  exact hId.trans (h id old hOld)

theorem Keyed.put (h : b.Keyed) {changed : StorySpan}
    (hPut : b'.spans = b.spans.put changed.id changed) : b'.Keyed := by
  intro id span hSpan
  rw [hPut, Table.get?_put] at hSpan
  split at hSpan
  case isTrue hHere =>
    obtain rfl := Option.some.inj hSpan
    exact hHere
  case isFalse => exact h id span hSpan

theorem KeepsEnds.remove (a : ActiveStory) : b.KeepsEnds (b.remove a) := by
  intro id span hSpan
  rw [StoryBoard.remove, Table.get?_foldl_erase] at hSpan
  split at hSpan
  case isTrue => cases hSpan
  case isFalse => exact ⟨span, hSpan, rfl, Iff.rfl⟩

end StoryBoard

namespace Orchestrator

variable {σ : Type}

/-- No closure was offered and no span was created. -/
def Quiet (noted : List Handover) : Prop :=
  ∀ x ∈ noted, x.write.closure? = none ∧ (x.refusal = none → x.write.createdSpan? = none)

/-- How a request changes the tracked spans, and what is handed over for it. -/
inductive Turn (s : Session StoryBoard (Watched σ)) : Session StoryBoard (Watched σ) → Prop where
  | quiet {board : StoryBoard} {noted : List Handover} {sink : σ} {supply : Supply} {n : Nat}
      (ends : s.state.KeepsEnds board) (hQuiet : Quiet noted) (uses : s.supply.Uses n supply) :
      Turn s ⟨board, s.sink.note sink noted, supply⟩
  | opened {board : StoryBoard} {record : Span} {kept : StorySpan} {sink : σ} {supply : Supply}
      (new : record.id = s.supply.ids s.supply.idsUsed) (same : kept.id = record.id)
      (ends : record.isOpen = true ↔ kept.endTime = none)
      (spans : board.spans = s.state.spans.put kept.id kept) (uses : s.supply.Uses 1 supply) :
      Turn s ⟨board, s.sink.note sink [⟨.createSpan record, none⟩], supply⟩
  | ended {known ended : StorySpan} {c : Closure} {refusal : Option SinkError} {sink : σ}
      {supply : Supply} (hKnown : s.state.spans.get? c.spanId = some known)
      (isOpen : known.endTime = none) (same : ended.id = known.id)
      (ends : ended.endTime ≠ none) (closes : c.status.isRunning = false)
      (uses : s.supply.Uses 0 supply) :
      Turn s ⟨s.state.setSpan ended, s.sink.note sink [⟨.endSpan c, refusal⟩], supply⟩

theorem quiet_nil : Quiet [] := fun _ hx => nomatch hx

theorem quiet_trace {x : Handover} (hClosure : x.write.closure? = none)
    (hCreated : x.write.createdSpan? = none) : Quiet [x] := by
  intro y hy
  obtain rfl := List.mem_singleton.1 hy
  exact ⟨hClosure, fun _ => hCreated⟩

theorem quiet_refused {w : Write} (hClosure : w.closure? = none) (e : SinkError) :
    Quiet [⟨w, some e⟩] := by
  intro y hy
  obtain rfl := List.mem_singleton.1 hy
  exact ⟨hClosure, nofun⟩

/-- A request can change the board and hand over nothing. -/
theorem Turn.silent {s : Session StoryBoard (Watched σ)} {board : StoryBoard} {supply : Supply}
    {n : Nat} (ends : s.state.KeepsEnds board) (uses : s.supply.Uses n supply) :
    Turn s ⟨board, s.sink, supply⟩ := by
  rw [← Watched.note_nil s.sink]
  exact .quiet ends quiet_nil uses

/-- A request that only reads leaves the session as it is. -/
theorem Turn.refl (s : Session StoryBoard (Watched σ)) : Turn s s :=
  .silent (n := 0) (.of_spans_eq rfl) ⟨rfl, rfl⟩

/-- The recorded span is open exactly if the kept one is not ended. -/
theorem isOpen_span_iff (p : SpanPlan) (a : ActiveStory) (id : String)
    (started ended first last : Instant) :
    (p.span a id started ended).isOpen = true ↔ (p.storySpan a id first last).endTime = none := by
  unfold SpanPlan.storySpan SpanPlan.span
  cases p.output with
  | none => exact iff_of_true rfl rfl
  | some output => exact iff_of_false Bool.false_ne_true nofun

theorem Served.turn {o : Orchestrator} {q : Request} {response : Response}
    {s s' : Session StoryBoard (Watched σ)} (h : Served o s q response s')
    (hKeyed : s.state.Keyed) : Turn s s' := by
  cases h with
  | rootCreated _ _ uses => exact .quiet (.of_spans_eq rfl) (quiet_trace rfl rfl) uses
  | rootRefused uses => exact .quiet (.of_spans_eq rfl) (quiet_trace rfl rfl) uses
  | openUnknown _ => exact .refl s
  | @spanOpened _ plan _ _ _ _ _ _ _ _ uses =>
      refine .opened (id_span ..) ?_ (isOpen_span_iff plan ..) rfl uses
      rw [id_storySpan, id_span]
  | @spanRefused _ _ _ e _ _ uses => exact .quiet (.of_spans_eq rfl) (quiet_refused rfl e) uses
  | spanUnknown _ _ => exact .refl s
  | @revised _ id known changed _ _ hKnown same ended ends uses =>
      have hId := hKeyed id known hKnown
      have hHere : s.state.spans.get? known.id = some known := hId.symm ▸ hKnown
      exact .silent (.setSpan hHere same.id (iff_of_false ends ended)) uses
  | closed _ hKnown same isOpen ends closes _ uses =>
      exact .ended hKnown isOpen same.id ends closes uses
  | linkUnknown _ => exact .refl s
  | linked _ => exact .silent (n := 0) (.of_spans_eq rfl) ⟨rfl, rfl⟩
  | finalizeUnknown _ => exact .refl s
  | finalizeRefused uses => exact .quiet (.of_spans_eq rfl) (quiet_trace rfl rfl) uses
  | @finalized _ _ _ story _ _ _ _ _ _ uses =>
      exact .quiet (.remove story) (quiet_trace rfl rfl) uses

theorem turn_serve [Sink σ] (o : Orchestrator) {s : Session StoryBoard (Watched σ)}
    (hKeyed : s.state.Keyed) (q : Request) : Turn s (o.serve q s).2 := by
  rw [session_serve]
  exact (served_respond o q s).turn hKeyed

end Orchestrator

end StoryTrace
