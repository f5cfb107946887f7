import StoryTrace.Proofs.Record.Senders
import StoryTrace.Proofs.Run.Turn

/-!
# Stores behind a gate

The store behind a watched gate is the one that the accepted writes make. What is proved of the
accepted writes of a recorder therefore holds of a store that refuses some of its calls.
-/

namespace StoryTrace

namespace Store

/-- The store with its flushes forgotten. -/
def unflushed (s : Store) : Store := { s with flushes := 0 }

/-- A write does not look at the flushes. -/
theorem unflushed_receive (s : Store) (w : Write) :
    (s.receive w).unflushed = s.unflushed.receive w := by
  cases w with
  | createTrace t =>
      have hHas : s.unflushed.hasTrace t.id = s.hasTrace t.id := rfl
      simp only [receive, insertTrace, hHas]
      cases s.hasTrace t.id <;> rfl
  | createSpan span =>
      have hPlace : s.unflushed.position? span.id = s.position? span.id := rfl
      simp only [receive, insertSpan, hPlace]
      cases s.position? span.id <;> rfl
  | endSpan c =>
      have hPlace : s.unflushed.position? c.spanId = s.position? c.spanId := rfl
      simp only [receive, closeSpan, hPlace]
      cases s.position? c.spanId <;> rfl
  | updateTrace u => rfl

end Store

namespace Watched

/-- The gate has let through what the accepted writes make. -/
def GateAgrees (w : Watched Gate) : Prop := w.sink.store.unflushed = w.store

theorem GateAgrees.send {w : Watched Gate} (h : w.GateAgrees) (x : Write) :
    (Sink.send x w).2.GateAgrees := by
  have hSend : (Sink.send x w).2 =
      w.note (w.sink.pass (.ofWrite x) (·.receive x)).2
        [.ofAnswer x (w.sink.pass (.ofWrite x) (·.receive x)).1] := rfl
  rw [hSend]
  cases hRefusals : w.sink.refusals (.ofWrite x) with
  | zero =>
      rw [Gate.pass_of_refusals_eq_zero hRefusals]
      have hStore : (w.note ⟨w.sink.store.receive x, w.sink.refusals⟩
          [.ofAnswer x (.ok ())]).store = w.store.receive x := store_note ..
      exact (Store.unflushed_receive _ _).trans ((congrArg (·.receive x) h).trans hStore.symm)
  | succ n =>
      rw [Gate.pass_of_refusals_eq_succ hRefusals]
      have hStore : (w.note (w.sink.refuse (.ofWrite x) n)
          [.ofAnswer x (.error (Gate.refused (.ofWrite x)))]).store = w.store := store_note ..
      exact Eq.trans h hStore.symm

theorem GateAgrees.flush {w : Watched Gate} (h : w.GateAgrees) : (Sink.flush w).2.GateAgrees := by
  have hStore : (Sink.flush w).2.store = w.store := by
    simp [Sink.flush, store, accepted, note]
  refine Eq.trans ?_ (h.trans hStore.symm)
  simp only [Sink.flush, note, Gate.pass]
  split <;> rfl

/-- Whatever work sends, the store behind the gate is the one that the accepted writes make. -/
theorem gateAgrees_of_sends {τ α : Type} {allowed : Write → Prop} {work : Work τ (Watched Gate) α}
    (h : work.Sends allowed) {s : Session τ (Watched Gate)} (hBefore : s.sink.GateAgrees) :
    (work s).2.sink.GateAgrees :=
  h GateAgrees (fun x _ _ hw => hw.send x) (fun _ hw => hw.flush) s hBefore

end Watched

namespace Recorder

theorem sends_answer {σ : Type} [Sink σ] (r : Recorder) (n : Notice) :
    (r.answer n : Work RunMap σ _).Sends Write.WellFormed := by
  cases n with
  | started x => exact (sends_start r x).bind fun _ => Work.sends_pure _
  | ended run output => exact (sends_stop run output).bind fun _ => Work.sends_pure _
  | failed run error => exact (sends_fail run error).bind fun _ => Work.sends_pure _

/-- A recorder over an empty store that may refuse calls: the store holds what was accepted. -/
theorem gateAgrees_attendAll (r : Recorder) (refusals : SinkCall → Nat) (supply : Supply)
    (notices : List Notice) :
    (r.attendAll notices (session ⟨.empty, refusals⟩ supply)).2.sink.GateAgrees := by
  have hStart : (session ⟨.empty, refusals⟩ supply).sink.GateAgrees := rfl
  refine attendAll_induction (motive := fun _ s => s.sink.GateAgrees) ?_ hStart notices
  intro _ s n h
  exact Watched.gateAgrees_of_sends (sends_answer r n) h

/-- A sink that accepts every write refuses nothing that a recorder hands over. -/
theorem refusals_attendAll {σ : Type} [Sink σ] (r : Recorder) {sink : σ}
    (h : Sink.AcceptsAll sink) (supply : Supply) (notices : List Notice) :
    ∀ x ∈ (r.attendAll notices (session sink supply)).2.sink.handovers, x.refusal = none := by
  obtain ⟨keeps, hSink, hSend, hFlush⟩ := h
  have hStart : keeps (session sink supply).sink.sink ∧
      ∀ x ∈ (session sink supply).sink.handovers, x.refusal = none :=
    ⟨hSink, List.forall_mem_nil _⟩
  refine (attendAll_induction (motive := fun _ s => keeps s.sink.sink ∧
    ∀ x ∈ s.sink.handovers, x.refusal = none) ?_ hStart notices).2
  intro _ s n h
  exact Watched.refusals_of_sends hSend hFlush (sends_answer r n) h

end Recorder

end StoryTrace
