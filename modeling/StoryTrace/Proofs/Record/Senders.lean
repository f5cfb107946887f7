import StoryTrace.Proofs.Record.WellFormed
import StoryTrace.Proofs.Session
import StoryTrace.Run.Recorder
import StoryTrace.Story.Narrator
import StoryTrace.Story.Orchestrator

/-!
# Senders of records

Recorders, narrators and orchestrators hand over well-formed records only, whatever state they are
in and whatever the sink answers.
-/

namespace StoryTrace

open Work

variable {σ : Type} [Sink σ]

namespace Recorder

theorem made_spanOf (x : RunStart) (id traceId : String) (parentId : Option String)
    (now : Instant) : (spanOf x id traceId parentId now).Made :=
  .withMetadata (.withInput (.withType (.withParent (.new id traceId x.spanName now) parentId)
    x.kind.spanType) x.input.payload) x.spanMetadata

theorem sends_createTrace (r : Recorder) (resolution : Resolution) :
    Sends (σ := σ) Write.WellFormed (r.createTrace resolution) := by
  unfold createTrace
  split
  · exact sends_now.bind fun _ => sends_send trivial
  · exact sends_pure _

theorem sends_start (r : Recorder) (x : RunStart) :
    Sends (σ := σ) Write.WellFormed (r.start x) := by
  apply sends_state.bind
  intro known
  split
  · exact sends_pure _
  · apply sends_state.bind
    intro known
    apply sends_newId.bind
    intro fresh
    apply (sends_createTrace r _).bind
    intro created
    split
    · exact (sends_put _).bind fun _ => sends_pure _
    · apply sends_newId.bind
      intro id
      apply sends_now.bind
      intro now
      apply (sends_send (made_spanOf x _ _ _ _).wellFormed).bind
      intro sent
      split
      · exact (sends_put _).bind fun _ => sends_pure _
      · exact (sends_put _).bind fun _ => sends_pure _

theorem sends_finish {run : RunId} {closure : ClosedRun → Instant → Closure}
    (h : ∀ taken now, (closure taken now).Made) :
    Sends (σ := σ) Write.WellFormed (finish run closure) := by
  apply sends_state.bind
  intro known
  split
  · exact sends_pure _
  · apply sends_now.bind
    intro now
    apply (sends_send ((h _ now).withType _).wellFormed).bind
    intro sent
    split
    · exact (sends_put _).bind fun _ => sends_pure _
    · exact (sends_put _).bind fun _ => sends_pure _

theorem sends_stop (run : RunId) (output : RunOutput) :
    Sends (σ := σ) Write.WellFormed (stop run output) :=
  sends_finish fun _ _ => .withUsage (.succeeded _ _ _ _) _

theorem sends_fail (run : RunId) (error : RunError) :
    Sends (σ := σ) Write.WellFormed (fail run error) :=
  sends_finish fun _ _ => .failed _ _ _ _ _

theorem sends_receive (r : Recorder) (n : Notice) :
    Sends (σ := σ) Write.WellFormed (r.receive n) := by
  cases n with
  | started x => exact (sends_start r x).bind fun _ => sends_pure _
  | ended run output => exact sends_stop run output
  | failed run error => exact sends_fail run error

theorem sends_settle {α ε : Type} (run : RunId) (write : α → Option Json)
    (describe : ε → RunError) (result : Except ε α) :
    Sends (σ := σ) Write.WellFormed (settle run write describe result) := by
  cases result with
  | ok value => exact (sends_stop run _).discard.bind fun _ => sends_pure _
  | error e => exact (sends_fail run _).discard.bind fun _ => sends_pure _

end Recorder

namespace Narrator

theorem made_spanOf (e : StoryEvent) (storyId id traceId : String) (started ended : Instant) :
    (spanOf e storyId id traceId started ended).Made :=
  .finished (.withMetadata (.withInput (.withParent (.new id traceId e.spanName started)
    e.parentId) (.object e.input)) (e.spanMetadata storyId)) (e.output.map .object) ended

theorem sends_ensureRoot (n : Narrator) : Sends (σ := σ) Write.WellFormed n.ensureRoot := by
  apply sends_state.bind
  intro known
  split
  · exact sends_pure _
  · apply sends_state.bind
    intro known
    apply sends_newId.bind
    intro fresh
    apply sends_now.bind
    intro created
    apply sends_now.bind
    intro shown
    apply Sends.bind (sends_send trivial)
    intro sent
    split
    · exact sends_pure _
    · exact sends_now.bind fun _ => (sends_put _).bind fun _ => sends_pure _

theorem sends_headers (n : Narrator) : Sends (σ := σ) Write.WellFormed n.headers := by
  apply (sends_ensureRoot n).bind
  intro root
  split
  · exact sends_pure _
  · exact sends_state.bind fun _ => sends_pure _

theorem sends_receive (n : Narrator) (h : Headers) :
    Sends (σ := σ) Write.WellFormed (n.receive h) := by
  apply sends_state.bind
  intro known
  split
  · exact (sends_put _).bind fun _ => sends_pure _
  · exact sends_pure _

theorem sends_record (n : Narrator) (e : StoryEvent) :
    Sends (σ := σ) Write.WellFormed (n.record e) := by
  apply (sends_ensureRoot n).bind
  intro root
  split
  · exact sends_pure _
  · apply sends_newId.bind
    intro id
    apply sends_now.bind
    intro started
    apply sends_state.bind
    intro known
    apply sends_now.bind
    intro ended
    exact (sends_send (made_spanOf e _ _ _ _ _).wellFormed).bind fun _ => sends_pure _

theorem sends_tell (n : Narrator) (note : StoryNote) :
    Sends (σ := σ) Write.WellFormed (n.tell note) :=
  (sends_change _).bind fun _ => sends_record n _

theorem sends_openStory (n : Narrator) (storyId : Option String) :
    Sends (σ := σ) Write.WellFormed (n.openStory storyId) := by
  apply (sends_change _).bind
  intro _
  apply sends_lap.bind
  intro began
  apply (sends_ensureRoot n).bind
  intro root
  split
  · exact sends_pure _
  · apply sends_state.bind
    intro known
    apply (sends_record n _).bind
    intro recorded
    split
    · exact sends_pure _
    · exact sends_pure _

theorem sends_closeStory (n : Narrator) (o : Opening) :
    Sends (σ := σ) Write.WellFormed (n.closeStory o) := by
  apply sends_lap.bind
  intro stopped
  apply (sends_change _).bind
  intro _
  apply sends_state.bind
  intro known
  exact (sends_record n _).discard.bind fun _ => (sends_record n _).discard

/-- Work between the start and the end of a story adds nothing to what it sends itself. -/
theorem sends_generate {α : Type} (n : Narrator) (storyId : Option String)
    {work : String → Work Narration σ α} (h : ∀ traceId, (work traceId).Sends Write.WellFormed) :
    (n.generate storyId work).Sends Write.WellFormed := by
  apply (sends_openStory n storyId).bind
  intro opened
  split
  · exact sends_pure _
  · exact (h _).bind fun _ => (sends_closeStory n _).bind fun _ => sends_pure _

end Narrator

namespace Orchestrator

theorem made_span (p : SpanPlan) (a : ActiveStory) (id : String) (started ended : Instant) :
    (p.span a id started ended).Made := by
  have hOpened := Span.Made.withMetadata (.withInput (.withParent
    (.new id a.traceId p.name started) p.parentId) p.input) (p.fullMetadata a.storyId)
  unfold SpanPlan.span
  split
  · exact hOpened.finished _ ended
  · exact hOpened

theorem sends_createRoot (o : Orchestrator) (storyId : String) (sessionId traceId : Option String)
    (metadata : Metadata) :
    Sends (σ := σ) Write.WellFormed (o.createRoot storyId sessionId traceId metadata) := by
  apply sends_newId.bind
  intro _
  apply sends_newId.bind
  intro _
  apply sends_now.bind
  intro _
  apply sends_now.bind
  intro _
  apply sends_now.bind
  intro _
  apply Sends.bind (sends_send trivial)
  intro sent
  split
  · exact sends_pure _
  · exact (sends_change _).bind fun _ => sends_pure _

theorem sends_openSpan (traceId : String) (p : SpanPlan) :
    Sends (σ := σ) Write.WellFormed (openSpan traceId p) := by
  apply sends_state.bind
  intro board
  split
  · exact sends_pure _
  · apply sends_newId.bind
    intro id
    apply sends_now.bind
    intro _
    apply sends_now.bind
    intro _
    apply sends_now.bind
    intro _
    apply sends_now.bind
    intro _
    apply (sends_send (made_span p _ id _ _).wellFormed).bind
    intro sent
    split
    · exact sends_pure _
    · exact (sends_change _).bind fun _ => sends_pure _

theorem sends_sendClosure {c : Closure} (h : c.Made) :
    Sends (σ := σ) Write.WellFormed (sendClosure c) := by
  apply Sends.bind (sends_send h.wellFormed)
  intro sent
  split
  · exact sends_pure _
  · exact sends_pure _

theorem sends_setOutput (spanId : String) (output : Json) :
    Sends (σ := σ) Write.WellFormed (setOutput spanId output) := by
  apply sends_state.bind
  intro board
  split
  · exact sends_pure _
  · extract_lets given
    split
    · exact (sends_change _).bind fun _ => sends_pure _
    · apply sends_now.bind
      intro _
      apply (sends_change _).bind
      intro _
      apply sends_now.bind
      intro _
      exact sends_sendClosure (.succeeded _ _ _ _)

theorem sends_setError (spanId message : String) :
    Sends (σ := σ) Write.WellFormed (setError spanId message) := by
  apply sends_state.bind
  intro board
  split
  · exact sends_pure _
  · apply sends_now.bind
    intro _
    apply (sends_change _).bind
    intro _
    split
    · exact sends_pure _
    · exact sends_now.bind fun _ => sends_sendClosure (.failed _ _ _ _ _)

theorem sends_link (traceId externalId system : String) :
    Sends (σ := σ) Write.WellFormed (link traceId externalId system) := by
  apply sends_state.bind
  intro board
  split
  · exact sends_pure _
  · exact (sends_change _).bind fun _ => sends_pure _

theorem sends_finalize (traceId : String) (content : Option String)
    (metrics : Option StoryMetrics) :
    Sends (σ := σ) Write.WellFormed (finalize traceId content metrics) := by
  apply sends_state.bind
  intro board
  split
  · exact sends_pure _
  · apply sends_now.bind
    intro _
    apply Sends.bind (sends_send trivial)
    intro sent
    split
    · exact sends_pure _
    · exact (sends_put _).bind fun _ => sends_flush.discard.bind fun _ => sends_pure _

end Orchestrator

/-- Work that is made of the operations of recorders, narrators and orchestrators. -/
inductive Handling : {τ α : Type} → Work τ σ α → Prop where
  | done {τ α : Type} (a : α) : Handling (pure a : Work τ σ α)
  | next {τ α β : Type} {work : Work τ σ α} {more : α → Work τ σ β} (h : Handling work)
      (hMore : ∀ a, Handling (more a)) : Handling (work >>= more)
  | within {ρ τ α : Type} {work : Work τ σ α} (h : Handling work) (part : ρ → τ)
      (replace : ρ → τ → ρ) : Handling (work.within part replace)
  | close {τ : Type} (flushOnClose : Bool) : Handling (Work.close flushOnClose : Work τ σ Unit)
  | notice (r : Recorder) (n : Notice) : Handling (r.receive n)
  | settle {α ε : Type} (run : RunId) (write : α → Option Json) (describe : ε → RunError)
      (result : Except ε α) : Handling (Recorder.settle run write describe result)
  | ensureRoot (n : Narrator) : Handling n.ensureRoot
  | headers (n : Narrator) : Handling n.headers
  | request (n : Narrator) (h : Headers) : Handling (n.receive h)
  | record (n : Narrator) (e : StoryEvent) : Handling (n.record e)
  | tell (n : Narrator) (note : StoryNote) : Handling (n.tell note)
  | openStory (n : Narrator) (storyId : Option String) : Handling (n.openStory storyId)
  | closeStory (n : Narrator) (o : Narrator.Opening) : Handling (n.closeStory o)
  | generate {α : Type} (n : Narrator) (storyId : Option String)
      {work : String → Work Narration σ α} (h : ∀ traceId, Handling (work traceId)) :
      Handling (n.generate storyId work)
  | reset : Handling Narrator.reset
  | createRoot (o : Orchestrator) (storyId : String) (sessionId traceId : Option String)
      (metadata : Metadata) : Handling (o.createRoot storyId sessionId traceId metadata)
  | openSpan (traceId : String) (p : SpanPlan) : Handling (Orchestrator.openSpan traceId p)
  | setOutput (spanId : String) (output : Json) :
      Handling (Orchestrator.setOutput spanId output)
  | setError (spanId message : String) : Handling (Orchestrator.setError spanId message)
  | link (traceId externalId system : String) :
      Handling (Orchestrator.link traceId externalId system)
  | finalize (traceId : String) (content : Option String) (metrics : Option StoryMetrics) :
      Handling (Orchestrator.finalize traceId content metrics)

/-- All handlers hand over well-formed records only. -/
theorem Handling.sends {τ α : Type} {work : Work τ σ α} (h : Handling work) :
    work.Sends Write.WellFormed := by
  induction h with
  | done a => exact sends_pure a
  | next _ _ ih ihMore => exact ih.bind ihMore
  | within _ part replace ih => exact ih.within part replace
  | close flushOnClose => exact sends_close flushOnClose
  | notice r n => exact Recorder.sends_receive r n
  | settle run write describe result => exact Recorder.sends_settle run write describe result
  | ensureRoot n => exact Narrator.sends_ensureRoot n
  | headers n => exact Narrator.sends_headers n
  | request n h => exact Narrator.sends_receive n h
  | record n e => exact Narrator.sends_record n e
  | tell n note => exact Narrator.sends_tell n note
  | openStory n storyId => exact Narrator.sends_openStory n storyId
  | closeStory n o => exact Narrator.sends_closeStory n o
  | generate n storyId _ ih => exact Narrator.sends_generate n storyId ih
  | reset => exact sends_change _
  | createRoot o storyId sessionId traceId metadata =>
      exact Orchestrator.sends_createRoot o storyId sessionId traceId metadata
  | openSpan traceId p => exact Orchestrator.sends_openSpan traceId p
  | setOutput spanId output => exact Orchestrator.sends_setOutput spanId output
  | setError spanId message => exact Orchestrator.sends_setError spanId message
  | link traceId externalId system => exact Orchestrator.sends_link traceId externalId system
  | finalize traceId content metrics =>
      exact Orchestrator.sends_finalize traceId content metrics

end StoryTrace
