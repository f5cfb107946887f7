import StoryTrace.Proofs.Record.Senders
import StoryTrace.Proofs.Sink.Watched
import StoryTrace.Store.Replay

/-!
# Replay of spans

The events of well-formed writes rebuild the spans of a store and its counts of closures, with
orphans, replacements and late closures at their places. The times of the events and the clock of
the replay do not matter.
-/

namespace StoryTrace

namespace Store

/-- The stores agree on all that is about spans. -/
structure SameSpans (a b : Store) : Prop where
  spans : a.spans = b.spans
  index : a.index = b.index
  closures : a.closures = b.closures
  orphans : a.orphans = b.orphans

variable {a b : Store}

namespace SameSpans

variable (h : SameSpans a b)
include h

theorem insertSpan (span : Span) : SameSpans (a.insertSpan span) (b.insertSpan span) := by
  have hPlace : a.position? span.id = b.position? span.id := by
    rw [position?, position?, h.index]
  unfold Store.insertSpan
  rw [hPlace]
  split
  · exact ⟨by rw [h.spans], h.index, h.closures, h.orphans⟩
  · exact ⟨by rw [h.spans], by rw [h.spans, h.index], h.closures, h.orphans⟩

theorem closeSpan (c : Closure) : SameSpans (a.closeSpan c) (b.closeSpan c) := by
  have hPlace : a.position? c.spanId = b.position? c.spanId := by
    rw [position?, position?, h.index]
  unfold Store.closeSpan
  rw [hPlace]
  split
  · exact ⟨by rw [h.spans], h.index, by rw [h.closures], h.orphans⟩
  · exact ⟨h.spans, h.index, by rw [h.closures], by rw [h.orphans]⟩

theorem replayTrace (now : Instant) (body : TraceBody) : SameSpans (a.replayTrace now body) b := by
  unfold Store.replayTrace
  split
  · exact ⟨h.spans, h.index, h.closures, h.orphans⟩
  · exact ⟨h.spans, h.index, h.closures, h.orphans⟩

theorem receive_createTrace (t : Trace) : SameSpans a (b.receive (.createTrace t)) := by
  simp only [receive, insertTrace]
  split
  · exact ⟨h.spans, h.index, h.closures, h.orphans⟩
  · exact ⟨h.spans, h.index, h.closures, h.orphans⟩

/-- The event of a well-formed write does to the spans what the write does. -/
theorem replayEvent {w : Write} (hWell : w.WellFormed) (now : Instant) (id : String)
    (time : Instant) :
    SameSpans (a.replayEvent now (Event.ofWrite w id time)) (b.receive w) := by
  cases w with
  | createTrace t => exact (h.receive_createTrace t).replayTrace now _
  | createSpan s =>
      have hEvent : a.replayEvent now (Event.ofWrite (.createSpan s) id time) =
          a.insertSpan ((SpanBody.ofSpan s).toSpan s.type now) := by
        cases hType : s.type <;>
          simp [Store.replayEvent, Event.ofWrite, Event.ofSpan, EventKind.create, hType]
      rw [hEvent, SpanBody.toSpan_ofSpan hWell]
      exact h.insertSpan s
  | endSpan c =>
      have hEvent : a.replayEvent now (Event.ofWrite (.endSpan c) id time) =
          a.closeSpan ((SpanBody.ofClosure c).toClosure c.type now) := by
        cases hType : c.type <;>
          simp [Store.replayEvent, Event.ofWrite, Event.ofClosure, EventKind.update, hType]
      rw [hEvent, SpanBody.toClosure_ofClosure hWell]
      exact h.closeSpan c
  | updateTrace u =>
      have hSame : SameSpans a (b.receive (.updateTrace u)) :=
        ⟨h.spans, h.index, h.closures, h.orphans⟩
      exact hSame.replayTrace now _

end SameSpans

/-- Writes with the id and the time of the event that each is sent as. -/
def eventsOf (sent : List (Write × String × Instant)) : List Event :=
  sent.map fun x => Event.ofWrite x.1 x.2.1 x.2.2

theorem sameSpans_foldl {sent : List (Write × String × Instant)}
    (hWell : ∀ x ∈ sent, x.1.WellFormed) (now : Instant) (h : SameSpans a b) :
    SameSpans ((eventsOf sent).foldl (replayEvent now) a) (b.receiveAll (sent.map Prod.fst)) := by
  induction sent generalizing a b with
  | nil => exact h
  | cons x rest ih =>
      have hHere := hWell x (List.mem_cons_self ..)
      exact ih (fun y hy => hWell y (List.mem_cons_of_mem _ hy)) (h.replayEvent hHere now _ _)

/-- The events of well-formed writes rebuild the spans and the counts of closures, records that are
made by their constructors are well-formed, and every handler writes well-formed records only. -/
theorem replay_rebuilds_spans (σ : Type) [Sink σ] :
    (∀ (now : Instant) (sent : List (Write × String × Instant)),
      (∀ x ∈ sent, x.1.WellFormed) →
        (replay now (eventsOf sent)).spans = (empty.receiveAll (sent.map Prod.fst)).spans ∧
        (replay now (eventsOf sent)).closures =
          (empty.receiveAll (sent.map Prod.fst)).closures ∧
        (replay now (eventsOf sent)).orphans =
          (empty.receiveAll (sent.map Prod.fst)).orphans) ∧
    (∀ s : Span, s.Made → s.WellFormed) ∧ (∀ c : Closure, c.Made → c.WellFormed) ∧
    ∀ {τ α : Type} {work : Work τ (Watched σ) α}, Handling work →
      ∀ s : Session τ (Watched σ), (∀ x ∈ s.sink.handovers, x.write.WellFormed) →
        ∀ x ∈ (work s).2.sink.handovers, x.write.WellFormed := by
  refine ⟨?_, fun s hs => hs.wellFormed, fun c hc => hc.wellFormed,
    fun h s hBefore => Watched.handovers_of_sends h.sends hBefore⟩
  intro now sent hWell
  have hSame := sameSpans_foldl hWell now (a := empty) (b := empty) ⟨rfl, rfl, rfl, rfl⟩
  exact ⟨hSame.spans, hSame.closures, hSame.orphans⟩

/-- A failure, a closure that names no span, a late success, and a second creation of the span. -/
def closedAndReplaced : List (Write × String × Instant) :=
  let time : Instant := ⟨0, 0⟩
  [(.createSpan (.new "s1" "t1" "search" time), "e1", time),
    (.endSpan (.failed "s1" "t1" "out of time" (some "Timeout") time), "e2", time),
    (.endSpan (.succeeded "s2" "t1" none time), "e3", time),
    (.endSpan (.succeeded "s1" "t1" (some (.string "found")) time), "e4", time),
    (.createSpan ((Span.new "s1" "t1" "search" time).finished none time), "e5", time)]

theorem replay_rebuilds_spans_closedAndReplaced :
    (∀ x ∈ closedAndReplaced, x.1.WellFormed) ∧
    (replay ⟨9, 0⟩ (eventsOf closedAndReplaced)).spans =
      (empty.receiveAll (closedAndReplaced.map Prod.fst)).spans ∧
    (replay ⟨9, 0⟩ (eventsOf closedAndReplaced)).closures = 3 ∧
    (replay ⟨9, 0⟩ (eventsOf closedAndReplaced)).orphans = 1 := by
  have hNew := Span.Made.new "s1" "t1" "search" ⟨0, 0⟩
  have hWell : ∀ x ∈ closedAndReplaced, x.1.WellFormed := by
    simp only [closedAndReplaced, List.forall_mem_cons]
    refine ⟨hNew.wellFormed, ?_, ?_, ?_, ?_, List.forall_mem_nil _⟩
    · exact (Closure.Made.failed ..).wellFormed
    · exact (Closure.Made.succeeded ..).wellFormed
    · exact (Closure.Made.succeeded ..).wellFormed
    · exact (hNew.finished none _).wellFormed
  have hThree : (empty.receiveAll (closedAndReplaced.map Prod.fst)).closures = 3 := by
    decide +kernel
  have hOne : (empty.receiveAll (closedAndReplaced.map Prod.fst)).orphans = 1 := by
    decide +kernel
  obtain ⟨hSpans, hClosures, hOrphans⟩ := (replay_rebuilds_spans Store).1 ⟨9, 0⟩ _ hWell
  exact ⟨hWell, hSpans, hClosures.trans hThree, hOrphans.trans hOne⟩

end Store

end StoryTrace
