import StoryTrace.Proofs.Story.Handling
import StoryTrace.Proofs.Story.Outcomes

/-!
# What is done with a narrator

The deeds of a program are what it gives the narrator to note, in the order of the calls: the events
that it records, the headers that it receives and the stories that it opens. Everything else that
the program does concerns no story, or only the metrics.
-/

namespace StoryTrace.Narrator

inductive Deed where
  /-- An event was given to be recorded. -/
  | recorded (e : StoryEvent)
  /-- Headers have come from outside, and their trace was noted or not. -/
  | received (h : Headers) (taken : Bool)
  /-- A story was to be opened, maybe under a name of its own. If there was a root trace then, it
  had been created under the known name. -/
  | opened (storyId known : Option String)

/-- The name under which the root trace was created, if it is there. -/
def rootName? (s : Narration) : Option String := s.correlation.map (·.storyId)

/-- The trace that was noted, if one was. -/
def Deed.taken? (header : String) : Deed → Option String
  | .received h true => h.get? header
  | _ => none

section

variable {σ : Type} [Sink σ] {n : Narrator}

/-- The work does these deeds, from the given session on. Of a story that could not be opened
nothing else is done. -/
inductive Performs (n : Narrator) :
    {α : Type} → Work Narration σ α → Session Narration σ → List Deed → Prop
  | pure {α : Type} (a : α) (s : Session Narration σ) : Performs n (pure a) s []
  | bind {α β : Type} {work : Work Narration σ α} {next : α → Work Narration σ β}
      {s : Session Narration σ} {first rest : List Deed} :
      Performs n work s first → Performs n (next (work s).1) (work s).2 rest →
      Performs n (work >>= next) s (first ++ rest)
  | state (s : Session Narration σ) : Performs n Work.state s []
  | ensureRoot (s : Session Narration σ) : Performs n n.ensureRoot s []
  | headers (s : Session Narration σ) : Performs n n.headers s []
  | receive (h : Headers) (s : Session Narration σ) :
      Performs n (n.receive h) s [.received h (n.receive h s).1]
  | record (e : StoryEvent) (s : Session Narration σ) : Performs n (n.record e) s [.recorded e]
  | tell (note : StoryNote) (s : Session Narration σ) :
      Performs n (n.tell note) s [.recorded note.event]
  | unopened {α : Type} {storyId : Option String} {work : String → Work Narration σ α}
      {e : SinkError} {s t : Session Narration σ} :
      n.openStory storyId s = (.error e, t) →
      Performs n (n.generate storyId work) s [.opened storyId (rootName? s.state)]
  | generate {α : Type} {storyId : Option String} {work : String → Work Narration σ α}
      {o : Opening} {s t : Session Narration σ} {deeds : List Deed} :
      n.openStory storyId s = (.ok o, t) → Performs n (work o.traceId) t deeds →
      Performs n (n.generate storyId work) s (.opened storyId (rootName? s.state) :: deeds)
  | reset (s : Session Narration σ) : Performs n reset s []
  | flush (s : Session Narration σ) : Performs n Work.flush s []
  | close (s : Session Narration σ) : Performs n n.close s []

/-- Whatever a program does, it does some deeds. -/
theorem Handles.exists_performs {α : Type} {work : Work Narration σ α} (h : n.Handles work)
    (s : Session Narration σ) : ∃ deeds, n.Performs work s deeds := by
  induction h generalizing s with
  | pure a => exact ⟨_, .pure a s⟩
  | bind hWork hNext ihWork ihNext =>
      obtain ⟨first, hFirst⟩ := ihWork s
      obtain ⟨rest, hRest⟩ := ihNext _ _
      exact ⟨_, .bind hFirst hRest⟩
  | state => exact ⟨_, .state s⟩
  | ensureRoot => exact ⟨_, .ensureRoot s⟩
  | headers => exact ⟨_, .headers s⟩
  | receive h => exact ⟨_, .receive h s⟩
  | record e => exact ⟨_, .record e s⟩
  | tell note => exact ⟨_, .tell note s⟩
  | @generate α storyId work hWork ih =>
      rcases hOpen : n.openStory storyId s with ⟨e | o, t⟩
      · exact ⟨_, .unopened hOpen⟩
      · obtain ⟨deeds, hDeeds⟩ := ih o.traceId t
        exact ⟨_, .generate hOpen hDeeds⟩
  | reset => exact ⟨_, .reset s⟩
  | flush => exact ⟨_, .flush s⟩
  | close => exact ⟨_, .close s⟩

theorem generate_of_unopened {α : Type} {storyId : Option String} {s t : Session Narration σ}
    {e : SinkError} (h : n.openStory storyId s = (.error e, t))
    (work : String → Work Narration σ α) : n.generate storyId work s = (.error e, t) := by
  rw [generate, Work.run_bind, h]
  rfl

theorem generate_of_opened {α : Type} {storyId : Option String} {s t : Session Narration σ}
    {o : Opening} (h : n.openStory storyId s = (.ok o, t)) (work : String → Work Narration σ α) :
    n.generate storyId work s =
      (.ok (work o.traceId t).1, (n.closeStory o (work o.traceId t).2).2) := by
  rw [generate, Work.run_bind, h]
  rfl

end

/-! ## What is told of the deeds -/

section

variable {σ : Type} {n : Narrator} {s t : Session Narration (Watched σ)}

/-- What is told of the deeds so far and of the session stays true with every step. -/
structure Follows (n : Narrator)
    (told : List Deed → Session Narration (Watched σ) → Prop) : Prop where
  recorded : ∀ {deeds s} (e : StoryEvent), told deeds s → told (deeds ++ [.recorded e]) s
  received : ∀ {deeds s} (h : Headers), told deeds s →
    told (deeds ++ [.received h (n.receive h s).1]) (n.receive h s).2
  opened : ∀ {deeds s} (storyId : Option String) (supply : Supply), told deeds s →
    told (deeds ++ [.opened storyId (rootName? s.state)]) (rename storyId s supply)
  ensured : ∀ {deeds s answer t}, told deeds s → Ensured n s answer t → told deeds t
  /-- The events that a story itself brings have no metadata of their own. -/
  sent : ∀ {deeds s c e} (id : String) (started ended : Instant) (refusal : Option SinkError)
    (sink : σ) (supply : Supply), told deeds s → s.state.correlation = some c →
    (.recorded e ∈ deeds ∨ e.metadata = []) →
    told deeds ⟨s.state, s.sink.note sink
      [⟨.createSpan (spanOf e s.state.storyId id c.rootTraceId started ended), refusal⟩], supply⟩
  measured : ∀ {deeds s} (metrics : StoryMetrics) (supply : Supply), told deeds s →
    told deeds ⟨{ s.state with metrics }, s.sink, supply⟩
  flushed : ∀ {deeds s} (sink : σ), told deeds s →
    told deeds ⟨s.state, s.sink.note sink [], s.supply⟩

namespace Follows

variable {told : List Deed → Session Narration (Watched σ) → Prop} (hFollows : Follows n told)
  {deeds : List Deed} (h : told deeds s)
include hFollows h

theorem record {e : StoryEvent} {answer : Except SinkError String}
    (hKnown : .recorded e ∈ deeds ∨ e.metadata = []) (hRecorded : Recorded n s e answer t) :
    told deeds t := by
  cases hRecorded with
  | unrooted ensured => exact hFollows.ensured h ensured
  | accepted ensured =>
      obtain ⟨c, hc, rfl⟩ := ensured.exists_correlation
      exact hFollows.sent _ _ _ _ _ _ (hFollows.ensured h ensured) hc hKnown
  | refused ensured =>
      obtain ⟨c, hc, rfl⟩ := ensured.exists_correlation
      exact hFollows.sent _ _ _ _ _ _ (hFollows.ensured h ensured) hc hKnown

theorem openStory {storyId : Option String} {answer : Except SinkError Opening}
    (hOpened : Opened n s storyId answer t) :
    told (deeds ++ [.opened storyId (rootName? s.state)]) t := by
  cases hOpened with
  | unrooted ensured => exact hFollows.ensured (hFollows.opened _ _ h) ensured
  | unstarted ensured started =>
      exact hFollows.record (hFollows.ensured (hFollows.opened _ _ h) ensured) (.inr rfl) started
  | opened ensured started =>
      exact hFollows.record (hFollows.ensured (hFollows.opened _ _ h) ensured) (.inr rfl) started

theorem closeStory {o : Opening} {metrics : StoryMetrics} (hClosed : Closed n s o metrics t) :
    told deeds t := by
  obtain ⟨supply, answer, answer', u, hEnd, hMetrics⟩ := hClosed.ended
  have hEnded := hFollows.record (hFollows.measured metrics supply h) (.inr rfl) hEnd
  exact hFollows.record hEnded (.inr rfl) hMetrics

/-- What every step keeps true is true after the deeds of any program. -/
theorem performs [Sink σ] {α : Type} {work : Work Narration (Watched σ) α} {more : List Deed}
    (hPerforms : n.Performs work s more) : told (deeds ++ more) (work s).2 := by
  -- on the deeds: of a story, those of its work come after its opening and before its end
  induction hPerforms generalizing deeds with
  | pure a s =>
      rw [List.append_nil]
      exact h
  | bind _ _ ihWork ihNext =>
      rw [← List.append_assoc]
      exact ihNext (ihWork h)
  | state s =>
      rw [List.append_nil]
      exact h
  | ensureRoot s =>
      rw [List.append_nil]
      exact hFollows.ensured h (ensured_ensureRoot n)
  | headers s =>
      obtain ⟨⟨root, hEnsured⟩, -⟩ := ensured_headers (s := s) n
      rw [List.append_nil]
      exact hFollows.ensured h hEnsured
  | receive header s => exact hFollows.received header h
  | record e s =>
      exact hFollows.record (hFollows.recorded e h) (.inl (by simp)) (recorded_record n e)
  | tell note s =>
      have hCounted := hFollows.measured (note.tally s.state.metrics) s.supply h
      exact hFollows.record (hFollows.recorded note.event hCounted) (.inl (by simp))
        (recorded_record n note.event)
  | @unopened α storyId work e s t hOpen =>
      rw [generate_of_unopened hOpen]
      have hOpened : Opened n s storyId (.error e) t := by
        simpa only [Work.Yields, hOpen] using opened_openStory (s := s) n storyId
      exact hFollows.openStory h hOpened
  | @generate α storyId work o s t inner hOpen _ ih =>
      rw [generate_of_opened hOpen]
      have hOpened : Opened n s storyId (.ok o) t := by
        simpa only [Work.Yields, hOpen] using opened_openStory (s := s) n storyId
      obtain ⟨metrics, hClosed⟩ := closed_closeStory (s := (work o.traceId t).2) n o
      have hWork := ih (hFollows.openStory h hOpened)
      rw [List.append_assoc] at hWork
      exact hFollows.closeStory hWork hClosed
  | reset s =>
      rw [List.append_nil]
      exact hFollows.measured .default s.supply h
  | flush s =>
      rw [List.append_nil]
      exact hFollows.flushed _ h
  | close s =>
      rw [List.append_nil]
      show told deeds (Work.close n.flushOnClose s).2
      unfold Work.close
      split
      · exact hFollows.flushed _ h
      · exact h

end Follows

end

end StoryTrace.Narrator
