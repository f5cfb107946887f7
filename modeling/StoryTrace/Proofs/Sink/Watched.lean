import StoryTrace.Proofs.Session
import StoryTrace.Proofs.Store.Spans

/-!
# Watched sinks

A watched sink leaves the work to the sink behind it and notes every write with its answer. The
accepted writes make a store: what a store behind the same refusals would hold.
-/

namespace StoryTrace

/-- A write that was handed to a sink, with the failure if it was refused. -/
structure Handover where
  write : Write
  refusal : Option SinkError

namespace Handover

/-- The note of a write and its answer. -/
def ofAnswer (w : Write) : Except SinkError Unit → Handover
  | .ok () => ⟨w, none⟩
  | .error e => ⟨w, some e⟩

/-- The write, if it was accepted. -/
def accepted? (h : Handover) : Option Write :=
  match h.refusal with
  | none => some h.write
  | some _ => none

@[simp] theorem write_ofAnswer (w : Write) (answer : Except SinkError Unit) :
    (ofAnswer w answer).write = w := by
  cases answer <;> rfl

@[simp] theorem accepted?_ok (w : Write) : (Handover.mk w none).accepted? = some w := rfl

@[simp] theorem accepted?_refused (w : Write) (e : SinkError) :
    (Handover.mk w (some e)).accepted? = none := rfl

end Handover

structure Watched (σ : Type) where
  sink : σ
  /-- What was handed over so far, the first write first. -/
  handovers : List Handover

namespace Watched

variable {σ : Type}

/-- A sink that is watched from now on. -/
def start (sink : σ) : Watched σ := ⟨sink, []⟩

def accepted (w : Watched σ) : List Write := w.handovers.filterMap Handover.accepted?

/-- The store that the accepted writes make. -/
def store (w : Watched σ) : Store := Store.empty.receiveAll w.accepted

/-- The spans that were created, as they were created. -/
def createdSpans (w : Watched σ) : List Span := w.accepted.filterMap Write.createdSpan?

/-- The closures that were accepted. -/
def acceptedClosures (w : Watched σ) : List Closure := w.accepted.filterMap Write.closure?

theorem indexed_store (w : Watched σ) : w.store.Indexed := Store.indexed_empty.receiveAll _

def note (w : Watched σ) (sink : σ) (noted : List Handover) : Watched σ :=
  ⟨sink, w.handovers ++ noted⟩

theorem note_nil (w : Watched σ) : w.note w.sink [] = w := by
  simp [note]

theorem note_note (w : Watched σ) (first second : σ) (noted more : List Handover) :
    (w.note first noted).note second more = w.note second (noted ++ more) := by
  simp [note]

theorem accepted_note (w : Watched σ) (sink : σ) (noted : List Handover) :
    (w.note sink noted).accepted = w.accepted ++ noted.filterMap Handover.accepted? := by
  simp [accepted, note]

/-- A write that is noted as refused was not accepted. -/
theorem accepted_note_refused (w : Watched σ) (sink : σ) (x : Write) (e : SinkError) :
    (w.note sink [⟨x, some e⟩]).accepted = w.accepted :=
  (w.accepted_note sink _).trans (List.append_nil _)

theorem store_note (w : Watched σ) (sink : σ) (noted : List Handover) :
    (w.note sink noted).store = w.store.receiveAll (noted.filterMap Handover.accepted?) := by
  rw [store, accepted_note, Store.receiveAll_append]
  rfl

instance [Sink σ] : Sink (Watched σ) where
  name w := Sink.name w.sink
  send x w := ((Sink.send x w.sink).1,
    w.note (Sink.send x w.sink).2 [.ofAnswer x (Sink.send x w.sink).1])
  flush w := ((Sink.flush w.sink).1, w.note (Sink.flush w.sink).2 [])
  pending w := Sink.pending w.sink

/-- Everything that work hands over is allowed if everything before it was. -/
theorem handovers_of_sends [Sink σ] {τ α : Type} {allowed : Write → Prop}
    {work : Work τ (Watched σ) α} (h : work.Sends allowed) {s : Session τ (Watched σ)}
    (hBefore : ∀ x ∈ s.sink.handovers, allowed x.write) :
    ∀ x ∈ (work s).2.sink.handovers, allowed x.write := by
  refine h (fun w => ∀ x ∈ w.handovers, allowed x.write) ?send ?flush s hBefore
  case send =>
    intro w hAllowed watched hw x hx
    rcases List.mem_append.1 hx with hOld | hLast
    · exact hw x hOld
    · rw [List.mem_singleton.1 hLast, Handover.write_ofAnswer]
      exact hAllowed
  case flush =>
    intro watched hw x hx
    exact hw x (by simpa [Sink.flush, note] using hx)

/-- Over a sink that stays one that accepts every write, nothing that work hands over is refused. -/
theorem refusals_of_sends [Sink σ] {τ α : Type} {allowed : Write → Prop} {keeps : σ → Prop}
    (hSend : ∀ w k, keeps k → (Sink.send w k).1 = .ok () ∧ keeps (Sink.send w k).2)
    (hFlush : ∀ k, keeps k → keeps (Sink.flush k).2) {work : Work τ (Watched σ) α}
    (h : work.Sends allowed) {s : Session τ (Watched σ)}
    (hBefore : keeps s.sink.sink ∧ ∀ x ∈ s.sink.handovers, x.refusal = none) :
    keeps (work s).2.sink.sink ∧ ∀ x ∈ (work s).2.sink.handovers, x.refusal = none := by
  refine h (fun w => keeps w.sink ∧ ∀ x ∈ w.handovers, x.refusal = none) ?send ?flush s hBefore
  case send =>
    rintro w - watched ⟨hKeeps, hNone⟩
    obtain ⟨hOk, hNext⟩ := hSend w watched.sink hKeeps
    refine ⟨hNext, List.forall_mem_append.2 ⟨hNone, List.forall_mem_singleton.2 ?_⟩⟩
    rw [hOk]
    rfl
  case flush =>
    rintro watched ⟨hKeeps, hNone⟩
    refine ⟨hFlush watched.sink hKeeps, fun x hx => hNone x ?_⟩
    simpa [Sink.flush, note] using hx

end Watched

/-- The sink accepts every write, now and later. -/
def Sink.AcceptsAll {σ : Type} [Sink σ] (sink : σ) : Prop :=
  ∃ keeps : σ → Prop, keeps sink ∧
    (∀ w k, keeps k → (Sink.send w k).1 = .ok () ∧ keeps (Sink.send w k).2) ∧
    ∀ k, keeps k → keeps (Sink.flush k).2

theorem Store.acceptsAll (store : Store) : Sink.AcceptsAll store :=
  ⟨fun _ => True, trivial, fun _ _ _ => ⟨rfl, trivial⟩, fun _ _ => trivial⟩

theorem Sink.AcceptsAll.send {σ : Type} [Sink σ] {sink : σ} (h : Sink.AcceptsAll sink) (w : Write) :
    (Sink.send w sink).1 = .ok () ∧ Sink.AcceptsAll (Sink.send w sink).2 := by
  obtain ⟨keeps, hKeeps, hSend, hFlush⟩ := h
  exact ⟨(hSend w sink hKeeps).1, keeps, (hSend w sink hKeeps).2, hSend, hFlush⟩

theorem Sink.AcceptsAll.flush {σ : Type} [Sink σ] {sink : σ} (h : Sink.AcceptsAll sink) :
    Sink.AcceptsAll (Sink.flush sink).2 := by
  obtain ⟨keeps, hKeeps, hSend, hFlush⟩ := h
  exact ⟨keeps, hFlush sink hKeeps, hSend, hFlush⟩

namespace Work

theorem run_send_watched {σ : Type} [Sink σ] {τ : Type} {w : Write} {watched : Watched σ}
    {result : Except SinkError Unit} {sink : σ} (h : Sink.send w watched.sink = (result, sink))
    (t : τ) (supply : Supply) :
    (Work.send w : Work τ (Watched σ) _) ⟨t, watched, supply⟩ =
      (result, ⟨t, watched.note sink [.ofAnswer w result], supply⟩) := by
  rw [Work.run_send]
  simp only [Sink.send, h]

section

variable {τ σ : Type} [Sink σ] {t : τ} {watched : Watched σ} {supply : Supply}
  {goal : Except SinkError Unit → Session τ (Watched σ) → Prop}

/-- A write is noted with its answer. -/
theorem yields_send_answered {w : Write}
    (hOk : (Sink.send w watched.sink).1 = .ok () →
      goal (.ok ()) ⟨t, watched.note (Sink.send w watched.sink).2 [⟨w, none⟩], supply⟩)
    (hError : ∀ e, (Sink.send w watched.sink).1 = .error e →
      goal (.error e) ⟨t, watched.note (Sink.send w watched.sink).2 [⟨w, some e⟩], supply⟩) :
    (send w).Yields ⟨t, watched, supply⟩ goal := by
  rcases hSend : Sink.send w watched.sink with ⟨e | _, sink⟩
  all_goals
    rw [Yields, run_send_watched hSend]
    rw [hSend] at hOk hError
  · exact hError e rfl
  · exact hOk rfl

/-- A write is noted with its answer, whichever it is. -/
theorem yields_send {w : Write}
    (hOk : ∀ sink, goal (.ok ()) ⟨t, watched.note sink [⟨w, none⟩], supply⟩)
    (hError : ∀ e sink, goal (.error e) ⟨t, watched.note sink [⟨w, some e⟩], supply⟩) :
    (send w).Yields ⟨t, watched, supply⟩ goal :=
  yields_send_answered (fun _ => hOk _) fun e _ => hError e _

theorem yields_flush (h : ∀ answer sink, goal answer ⟨t, watched.note sink [], supply⟩) :
    flush.Yields ⟨t, watched, supply⟩ goal := h _ _

/-- A sink that accepts every write accepts this one, and the next one too. -/
theorem yields_send_accepting {w : Write} (hAccepts : Sink.AcceptsAll watched.sink)
    (h : ∀ sink, Sink.AcceptsAll sink → goal (.ok ()) ⟨t, watched.note sink [⟨w, none⟩], supply⟩) :
    (send w).Yields ⟨t, watched, supply⟩ goal := by
  refine yields_send_answered (fun _ => h _ (hAccepts.send w).2) fun e hError => ?_
  rw [(hAccepts.send w).1] at hError
  cases hError

theorem yields_flush_accepting (hAccepts : Sink.AcceptsAll watched.sink)
    (h : ∀ answer sink, Sink.AcceptsAll sink → goal answer ⟨t, watched.note sink [], supply⟩) :
    flush.Yields ⟨t, watched, supply⟩ goal := h _ _ hAccepts.flush

variable {t' : τ} {watched' : Watched σ}
  {goal : Except SinkError Unit → Session τ (Watched σ) →
    Except SinkError Unit → Session τ (Watched σ) → Prop}

theorem both_send_accepting {w w' : Write} (hAccepts : Sink.AcceptsAll watched.sink)
    (hAccepts' : Sink.AcceptsAll watched'.sink)
    (h : ∀ sink sink', Sink.AcceptsAll sink → Sink.AcceptsAll sink' →
      goal (.ok ()) ⟨t, watched.note sink [⟨w, none⟩], supply⟩
        (.ok ()) ⟨t', watched'.note sink' [⟨w', none⟩], supply⟩) :
    (send w).Both (send w') ⟨t, watched, supply⟩ ⟨t', watched', supply⟩ goal := by
  obtain ⟨hOk, hSink⟩ := hAccepts.send w
  obtain ⟨hOk', hSink'⟩ := hAccepts'.send w'
  rw [Both, run_send_watched (Prod.ext hOk rfl), run_send_watched (Prod.ext hOk' rfl)]
  exact h _ _ hSink hSink'

theorem both_flush_accepting (hAccepts : Sink.AcceptsAll watched.sink)
    (hAccepts' : Sink.AcceptsAll watched'.sink)
    (h : ∀ answer answer' sink sink', Sink.AcceptsAll sink → Sink.AcceptsAll sink' →
      goal answer ⟨t, watched.note sink [], supply⟩ answer' ⟨t', watched'.note sink' [], supply⟩) :
    flush.Both flush ⟨t, watched, supply⟩ ⟨t', watched', supply⟩ goal :=
  h _ _ _ _ hAccepts.flush hAccepts'.flush

end

end Work

end StoryTrace
