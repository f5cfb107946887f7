import StoryTrace.Session

/-!
# Running work

What each step of a session does to the session, and what becomes of the supply of ids.
-/

namespace StoryTrace

namespace Work

variable {τ σ α β : Type}

theorem run_bind (work : Work τ σ α) (next : α → Work τ σ β) (s : Session τ σ) :
    (work >>= next) s = next (work s).1 (work s).2 := rfl

theorem run_pure (a : α) (s : Session τ σ) : (pure a : Work τ σ α) s = (a, s) := rfl

theorem run_map (f : α → β) (work : Work τ σ α) (s : Session τ σ) :
    (f <$> work) s = (f (work s).1, (work s).2) := rfl

theorem run_state (s : Session τ σ) : (state : Work τ σ τ) s = (s.state, s) := rfl

theorem run_put (t : τ) (s : Session τ σ) :
    (put t : Work τ σ Unit) s = ((), { s with state := t }) := rfl

theorem run_newId (s : Session τ σ) :
    (newId : Work τ σ String) s =
      (s.supply.takeId.1, { s with supply := s.supply.takeId.2 }) := rfl

theorem run_now (s : Session τ σ) :
    (now : Work τ σ Instant) s =
      (s.supply.takeTime.1, { s with supply := s.supply.takeTime.2 }) := rfl

theorem run_send [Sink σ] (w : Write) (s : Session τ σ) :
    (send w : Work τ σ (Except SinkError Unit)) s =
      ((Sink.send w s.sink).1, { s with sink := (Sink.send w s.sink).2 }) := rfl

/-! ## What holds after work -/

/-- The goal holds of the result of the work and of the session after it. -/
def Yields (work : Work τ σ α) (s : Session τ σ) (goal : α → Session τ σ → Prop) : Prop :=
  goal (work s).1 (work s).2

section

variable {t : τ} {sink : σ} {supply : Supply}

theorem Yields.bind {work : Work τ σ α} {next : α → Work τ σ β} {s : Session τ σ}
    {goal : β → Session τ σ → Prop} (h : work.Yields s fun a t => (next a).Yields t goal) :
    (work >>= next).Yields s goal := h

theorem Yields.mono {work : Work τ σ α} {s : Session τ σ} {goal more : α → Session τ σ → Prop}
    (h : work.Yields s goal) (hMore : ∀ a t, goal a t → more a t) : work.Yields s more :=
  hMore _ _ h

theorem Yields.discard {work : Work τ σ α} {s : Session τ σ} {goal : Unit → Session τ σ → Prop}
    (h : work.Yields s fun _ t => goal () t) : (discard work).Yields s goal := h

theorem yields_pure {a : α} {s : Session τ σ} {goal : α → Session τ σ → Prop} (h : goal a s) :
    Yields (pure a) s goal := h

theorem yields_state {s : Session τ σ} {goal : τ → Session τ σ → Prop} (h : goal s.state s) :
    state.Yields s goal := h

theorem yields_put {t' : τ} {goal : Unit → Session τ σ → Prop} (h : goal () ⟨t', sink, supply⟩) :
    (put t').Yields ⟨t, sink, supply⟩ goal := h

theorem yields_change {f : τ → τ} {goal : Unit → Session τ σ → Prop}
    (h : goal () ⟨f t, sink, supply⟩) : (change f).Yields ⟨t, sink, supply⟩ goal := h

theorem yields_newId {goal : String → Session τ σ → Prop}
    (h : goal supply.takeId.1 ⟨t, sink, supply.takeId.2⟩) :
    newId.Yields ⟨t, sink, supply⟩ goal := h

theorem yields_now {goal : Instant → Session τ σ → Prop}
    (h : goal supply.takeTime.1 ⟨t, sink, supply.takeTime.2⟩) :
    now.Yields ⟨t, sink, supply⟩ goal := h

theorem yields_lap {goal : Nat → Session τ σ → Prop}
    (h : goal supply.takeLap.1 ⟨t, sink, supply.takeLap.2⟩) :
    lap.Yields ⟨t, sink, supply⟩ goal := h

end

/-- A store accepts every write. -/
theorem yields_send_store {t : τ} {store : Store} {supply : Supply} {w : Write}
    {goal : Except SinkError Unit → Session τ Store → Prop}
    (h : goal (.ok ()) ⟨t, store.receive w, supply⟩) : (send w).Yields ⟨t, store, supply⟩ goal := h

/-- Whatever the sink does, a write changes the sink only. -/
theorem yields_send_any [Sink σ] {t : τ} {sink : σ} {supply : Supply} {w : Write}
    {goal : Except SinkError Unit → Session τ σ → Prop}
    (h : ∀ answer next, goal answer ⟨t, next, supply⟩) : (send w).Yields ⟨t, sink, supply⟩ goal :=
  h _ _

/-! ## Two runs side by side -/

/-- The goal holds of what both works give and of the sessions after them. -/
def Both (work work' : Work τ σ α) (s s' : Session τ σ)
    (goal : α → Session τ σ → α → Session τ σ → Prop) : Prop :=
  goal (work s).1 (work s).2 (work' s').1 (work' s').2

section

variable {t t' : τ} {sink sink' : σ} {supply : Supply}

theorem Both.bind {work work' : Work τ σ α} {next next' : α → Work τ σ β} {s s' : Session τ σ}
    {goal : β → Session τ σ → β → Session τ σ → Prop}
    (h : work.Both work' s s' fun a r a' r' => (next a).Both (next' a') r r' goal) :
    (work >>= next).Both (work' >>= next') s s' goal := h

theorem Both.discard {work work' : Work τ σ α} {s s' : Session τ σ}
    {goal : Unit → Session τ σ → Unit → Session τ σ → Prop}
    (h : work.Both work' s s' fun _ r _ r' => goal () r () r') :
    (Functor.discard work).Both (Functor.discard work') s s' goal := h

theorem both_pure {a a' : α} {s s' : Session τ σ}
    {goal : α → Session τ σ → α → Session τ σ → Prop} (h : goal a s a' s') :
    Both (pure a) (pure a') s s' goal := h

theorem both_state {s s' : Session τ σ} {goal : τ → Session τ σ → τ → Session τ σ → Prop}
    (h : goal s.state s s'.state s') : state.Both state s s' goal := h

theorem both_put {r r' : τ} {goal : Unit → Session τ σ → Unit → Session τ σ → Prop}
    (h : goal () ⟨r, sink, supply⟩ () ⟨r', sink', supply⟩) :
    (put r).Both (put r') ⟨t, sink, supply⟩ ⟨t', sink', supply⟩ goal := h

theorem both_change {f f' : τ → τ} {goal : Unit → Session τ σ → Unit → Session τ σ → Prop}
    (h : goal () ⟨f t, sink, supply⟩ () ⟨f' t', sink', supply⟩) :
    (change f).Both (change f') ⟨t, sink, supply⟩ ⟨t', sink', supply⟩ goal := h

theorem both_newId {goal : String → Session τ σ → String → Session τ σ → Prop}
    (h : goal supply.takeId.1 ⟨t, sink, supply.takeId.2⟩
      supply.takeId.1 ⟨t', sink', supply.takeId.2⟩) :
    newId.Both newId ⟨t, sink, supply⟩ ⟨t', sink', supply⟩ goal := h

theorem both_now {goal : Instant → Session τ σ → Instant → Session τ σ → Prop}
    (h : goal supply.takeTime.1 ⟨t, sink, supply.takeTime.2⟩
      supply.takeTime.1 ⟨t', sink', supply.takeTime.2⟩) :
    now.Both now ⟨t, sink, supply⟩ ⟨t', sink', supply⟩ goal := h

end

/-! ## What work sends -/

section

variable [Sink σ]

/-- The work changes its sink by handing over allowed writes and by flushing, and not otherwise. -/
def Sends (allowed : Write → Prop) (work : Work τ σ α) : Prop :=
  ∀ keeps : σ → Prop, (∀ w, allowed w → ∀ sink, keeps sink → keeps (Sink.send w sink).2) →
    (∀ sink, keeps sink → keeps (Sink.flush sink).2) →
      ∀ s : Session τ σ, keeps s.sink → keeps (work s).2.sink

variable {allowed : Write → Prop}

/-- Work that leaves its sink alone sends nothing. -/
theorem sends_of_sink_eq {work : Work τ σ α} (h : ∀ s, (work s).2.sink = s.sink) :
    work.Sends allowed := by
  intro keeps _ _ s hs
  rw [h]
  exact hs

theorem sends_pure (a : α) : Sends (τ := τ) (σ := σ) allowed (pure a) :=
  sends_of_sink_eq fun _ => rfl

theorem sends_state : Sends (τ := τ) (σ := σ) allowed state := sends_of_sink_eq fun _ => rfl

theorem sends_put (t : τ) : Sends (σ := σ) allowed (put t) := sends_of_sink_eq fun _ => rfl

theorem sends_change (f : τ → τ) : Sends (σ := σ) allowed (change f) :=
  sends_of_sink_eq fun _ => rfl

theorem sends_newId : Sends (τ := τ) (σ := σ) allowed newId := sends_of_sink_eq fun _ => rfl

theorem sends_now : Sends (τ := τ) (σ := σ) allowed now := sends_of_sink_eq fun _ => rfl

theorem sends_lap : Sends (τ := τ) (σ := σ) allowed lap := sends_of_sink_eq fun _ => rfl

theorem sends_send {w : Write} (h : allowed w) : Sends (τ := τ) (σ := σ) allowed (send w) :=
  fun _ hSend _ s hs => hSend w h s.sink hs

theorem sends_flush : Sends (τ := τ) (σ := σ) allowed flush :=
  fun _ _ hFlush s hs => hFlush s.sink hs

theorem Sends.bind {work : Work τ σ α} {next : α → Work τ σ β} (h : work.Sends allowed)
    (hNext : ∀ a, (next a).Sends allowed) : (work >>= next).Sends allowed := by
  intro keeps hSend hFlush s hs
  exact hNext _ keeps hSend hFlush _ (h keeps hSend hFlush s hs)

theorem Sends.discard {work : Work τ σ α} (h : work.Sends allowed) :
    (discard work).Sends allowed := h

theorem Sends.within {ρ : Type} {work : Work τ σ α} (h : work.Sends allowed) (part : ρ → τ)
    (replace : ρ → τ → ρ) : (work.within part replace).Sends allowed :=
  fun keeps hSend hFlush s hs => h keeps hSend hFlush ⟨part s.state, s.sink, s.supply⟩ hs

theorem sends_close (flushOnClose : Bool) :
    Sends (τ := τ) (σ := σ) allowed (close flushOnClose) := by
  unfold close
  split
  · exact sends_flush.discard
  · exact sends_pure ()

end

end Work

namespace Supply

/-- The second supply is the first one after so many ids were taken from it. -/
structure Uses (s : Supply) (n : Nat) (t : Supply) : Prop where
  ids : t.ids = s.ids
  used : t.idsUsed = s.idsUsed + n

/-- The text was generated before. -/
def Gave (s : Supply) (id : String) : Prop := ∃ i < s.idsUsed, s.ids i = id

variable {s t : Supply} {n : Nat} {id : String}

theorem Uses.fresh (h : s.Uses n t) (hFresh : s.Fresh) : t.Fresh := by
  intro i j hEq
  rw [h.ids] at hEq
  exact hFresh i j hEq

theorem Uses.gave (h : s.Uses n t) (hGave : s.Gave id) : t.Gave id := by
  obtain ⟨i, hi, rfl⟩ := hGave
  exact ⟨i, by have := h.used; omega, by rw [h.ids]⟩

theorem Uses.gave_taken (h : s.Uses n t) {k : Nat} (hk : k < n) :
    t.Gave (s.ids (s.idsUsed + k)) :=
  ⟨s.idsUsed + k, by have := h.used; omega, by rw [h.ids]⟩

/-- Ids that are told apart by their lengths, and a clock that stands still. -/
def counting (now : Instant) : Supply :=
  .start (fun n => String.ofList (List.replicate n 'i')) fun _ => now

theorem fresh_counting (now : Instant) : (counting now).Fresh := by
  intro i j hEq
  have hLists := String.ofList_injective hEq
  simpa using congrArg List.length hLists

/-- An id that is still to come was not generated before. -/
theorem Fresh.not_gave (h : s.Fresh) (k : Nat) : ¬ s.Gave (s.ids (s.idsUsed + k)) := by
  rintro ⟨i, hi, hEq⟩
  have := h _ _ hEq
  omega

end Supply

end StoryTrace
