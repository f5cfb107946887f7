import StoryTrace.Proofs.Story.Handling

/-!
# The stopwatch of a narrator

Work with a narrator takes from its supply and never turns it back. So what is read from the
stopwatch before such work and after it are two readings of one stopwatch, in this order.
-/

namespace StoryTrace

/-- The stopwatch of the second supply is that of the first one, with no fewer readings taken. -/
structure Supply.Precedes (s t : Supply) : Prop where
  stopwatch : t.stopwatch = s.stopwatch
  laps : s.laps ≤ t.laps

namespace Supply.Precedes

theorem refl (s : Supply) : s.Precedes s := ⟨rfl, Nat.le_refl _⟩

theorem trans {s t u : Supply} (h : s.Precedes t) (hNext : t.Precedes u) : s.Precedes u :=
  ⟨hNext.stopwatch.trans h.stopwatch, Nat.le_trans h.laps hNext.laps⟩

theorem takeLap (s : Supply) : s.Precedes s.takeLap.2 := ⟨rfl, Nat.le_succ _⟩

end Supply.Precedes

namespace Work

variable {τ σ α β : Type}

/-- The work takes from the supply at most. -/
def Draws (work : Work τ σ α) : Prop :=
  ∀ s : Session τ σ, s.supply.Precedes (work s).2.supply

theorem draws_of_supply_eq {work : Work τ σ α} (h : ∀ s, (work s).2.supply = s.supply) :
    work.Draws := by
  intro s
  rw [h]
  exact .refl _

theorem draws_pure (a : α) : Draws (pure a : Work τ σ α) := draws_of_supply_eq fun _ => rfl

theorem draws_state : Draws (state : Work τ σ τ) := draws_of_supply_eq fun _ => rfl

theorem draws_put (t : τ) : Draws (put t : Work τ σ Unit) := draws_of_supply_eq fun _ => rfl

theorem draws_change (f : τ → τ) : Draws (change f : Work τ σ Unit) :=
  draws_of_supply_eq fun _ => rfl

theorem draws_newId : Draws (newId : Work τ σ String) := fun _ => ⟨rfl, Nat.le_refl _⟩

theorem draws_now : Draws (now : Work τ σ Instant) := fun _ => ⟨rfl, Nat.le_refl _⟩

theorem draws_lap : Draws (lap : Work τ σ Nat) := fun s => .takeLap s.supply

theorem draws_send [Sink σ] (w : Write) : Draws (send w : Work τ σ (Except SinkError Unit)) :=
  draws_of_supply_eq fun _ => rfl

theorem draws_flush [Sink σ] : Draws (flush : Work τ σ (Except SinkError Unit)) :=
  draws_of_supply_eq fun _ => rfl

theorem Draws.bind {work : Work τ σ α} {next : α → Work τ σ β} (h : work.Draws)
    (hNext : ∀ a, (next a).Draws) : (work >>= next).Draws :=
  fun s => (h s).trans (hNext _ _)

theorem Draws.discard {work : Work τ σ α} (h : work.Draws) : (discard work).Draws := h

/-- The reading that work begins with comes before everything else that the work takes. -/
theorem precedes_of_lap {f : τ → τ} {next : Nat → Work τ σ α} (h : ∀ began, (next began).Draws)
    (s : Session τ σ) :
    s.supply.takeLap.2.Precedes ((change f >>= fun _ => lap >>= next) s).2.supply :=
  h _ ⟨f s.state, s.sink, s.supply.takeLap.2⟩

theorem draws_close [Sink σ] (flushOnClose : Bool) :
    Draws (close flushOnClose : Work τ σ Unit) := by
  unfold close
  split
  · exact draws_flush.discard
  · exact draws_pure ()

end Work

namespace Narrator

open Work

variable {σ : Type}

theorem draws_receive (n : Narrator) (h : Headers) : Draws (n.receive h (σ := σ)) := by
  apply draws_state.bind
  intro known
  split
  · exact (draws_put _).bind fun _ => draws_pure _
  · exact draws_pure _

variable [Sink σ]

theorem draws_ensureRoot (n : Narrator) : Draws (n.ensureRoot (σ := σ)) := by
  apply draws_state.bind
  intro known
  split
  · exact draws_pure _
  · apply draws_state.bind
    intro _
    apply draws_newId.bind
    intro id
    apply draws_now.bind
    intro created
    apply draws_now.bind
    intro now
    apply (draws_send _).bind
    intro answer
    split
    · exact draws_pure _
    · exact draws_now.bind fun _ => (draws_put _).bind fun _ => draws_pure _

theorem draws_headers (n : Narrator) : Draws (n.headers (σ := σ)) := by
  apply (draws_ensureRoot n).bind
  intro root
  split
  · exact draws_pure _
  · exact draws_state.bind fun _ => draws_pure _

theorem draws_record (n : Narrator) (e : StoryEvent) : Draws (n.record e (σ := σ)) := by
  apply (draws_ensureRoot n).bind
  intro root
  split
  · exact draws_pure _
  · apply draws_newId.bind
    intro id
    apply draws_now.bind
    intro started
    apply draws_state.bind
    intro known
    apply draws_now.bind
    intro ended
    exact (draws_send _).bind fun _ => draws_pure _

theorem precedes_openStory (n : Narrator) (storyId : Option String) (s : Session Narration σ) :
    s.supply.takeLap.2.Precedes (n.openStory storyId s).2.supply := by
  refine precedes_of_lap (fun began => ?_) s
  apply (draws_ensureRoot n).bind
  intro root
  split
  · exact draws_pure _
  · apply draws_state.bind
    intro known
    apply (draws_record n _).bind
    intro started
    split
    · exact draws_pure _
    · exact draws_pure _

theorem draws_closeStory (n : Narrator) (o : Opening) : Draws (n.closeStory o (σ := σ)) := by
  apply draws_lap.bind
  intro stopped
  apply (draws_change _).bind
  intro _
  apply draws_state.bind
  intro known
  exact (draws_record n _).discard.bind fun _ => (draws_record n _).discard

/-- Whatever the narrator is asked for, it takes from its supply at most. -/
theorem Handles.draws {n : Narrator} {α : Type} {work : Work Narration σ α}
    (h : n.Handles work) : work.Draws := by
  induction h with
  | pure a => exact draws_pure a
  | bind _ _ ihWork ihNext => exact ihWork.bind ihNext
  | state => exact draws_state
  | ensureRoot => exact draws_ensureRoot n
  | headers => exact draws_headers n
  | receive h => exact draws_receive n h
  | record e => exact draws_record n e
  | tell note => exact (draws_change _).bind fun _ => draws_record n note.event
  | generate storyId _ ih =>
      have hOpen : (n.openStory storyId (σ := σ)).Draws := fun s =>
        (Supply.Precedes.takeLap s.supply).trans (precedes_openStory n storyId s)
      apply hOpen.bind
      intro opened
      split
      · exact draws_pure _
      · exact (ih _).bind fun _ => (draws_closeStory n _).bind fun _ => draws_pure _
  | reset => exact draws_change _
  | flush => exact draws_flush
  | close => exact draws_close _

end Narrator

end StoryTrace
