import StoryTrace.Proofs.Sink.Gate
import StoryTrace.Proofs.Story.Handling
import StoryTrace.Proofs.Story.Outcomes

/-!
# The root trace of a narrator

Whatever a narrator is asked for, and whatever its sink refuses, the sink accepts one root trace at
most, and then closed spans of that trace only. The narrator knows its root trace from the moment
when it was accepted. Until then everything that needs it tries to create it.
-/

namespace StoryTrace

/-- The span was closed in the given trace, and nothing has failed. -/
structure Span.FinishedIn (traceId : String) (s : Span) : Prop where
  traceId : s.traceId = traceId
  ended : s.endedAt ≠ none
  status : s.status = .succeeded

@[simp] theorem Correlation.rootTraceId_addChild (c : Correlation) (traceId system : String) :
    (c.addChild traceId system).rootTraceId = c.rootTraceId := by
  unfold addChild visit
  split <;> rfl

namespace Narrator

variable {σ : Type}

/-- The sink has accepted nothing as long as the narrator knows no root trace, and afterwards that
trace and finished spans of it. -/
structure Rooted (n : Narrator) (s : Session Narration (Watched σ)) : Prop where
  bare : s.state.correlation = none → s.sink.accepted = []
  grown : ∀ c, s.state.correlation = some c → ∃ (root : Trace) (spans : List Span),
    s.sink.accepted = .createTrace root :: spans.map .createSpan ∧ root.id = c.rootTraceId ∧
      ∀ span ∈ spans, span.FinishedIn root.id
  given : ∀ c id, s.state.correlation = some c → n.traceId = some id → c.rootTraceId = id

/-- The narrator stays rooted, keeps the root trace that it knows, and takes back no write. -/
structure Advances (n : Narrator) (s t : Session Narration (Watched σ)) : Prop where
  rooted : Rooted n s → Rooted n t
  root : ∀ c, s.state.correlation = some c →
    t.state.correlation.map (·.rootTraceId) = some c.rootTraceId
  handed : s.sink.handovers <+: t.sink.handovers

namespace Advances

variable {n : Narrator} {s t u : Session Narration (Watched σ)}

/-- A step that is about other things. -/
theorem of_same (hRoot : t.state.correlation = s.state.correlation)
    (hSink : t.sink.handovers = s.sink.handovers) : Advances n s t where
  rooted h := by
    have hAccepted : t.sink.accepted = s.sink.accepted := by
      rw [Watched.accepted, hSink, Watched.accepted]
    exact ⟨hRoot ▸ hAccepted ▸ h.bare, hRoot ▸ hAccepted ▸ h.grown, hRoot ▸ h.given⟩
  root c hc := by rw [hRoot, hc, Option.map_some]
  handed := hSink ▸ List.prefix_refl _

theorem refl (s : Session Narration (Watched σ)) : Advances n s s := of_same rfl rfl

theorem trans (h : Advances n s t) (hNext : Advances n t u) : Advances n s u where
  rooted := hNext.rooted ∘ h.rooted
  root c hc := by
    obtain ⟨d, hd, hSame⟩ := Option.map_eq_some_iff.1 (h.root c hc)
    rw [hNext.root d hd, hSame]
  handed := h.handed.trans hNext.handed

section

variable {known : Narration} {watched : Watched σ} {supply later : Supply} {c : Correlation}

theorem of_refused (sink : σ) (w : Write) (e : SinkError) :
    Advances n ⟨known, watched, supply⟩ ⟨known, watched.note sink [⟨w, some e⟩], later⟩ where
  rooted h := by
    have hAccepted := watched.accepted_note_refused sink w e
    exact ⟨hAccepted ▸ h.bare, hAccepted ▸ h.grown, h.given⟩
  root c hc := by rw [hc, Option.map_some]
  handed := List.prefix_append ..

theorem of_root {root : Trace} (hNone : known.correlation = none) (hRoot : root.id = c.rootTraceId)
    (hGiven : ∀ id, n.traceId = some id → c.rootTraceId = id) (sink : σ) :
    Advances n ⟨known, watched, supply⟩ ⟨{ known with correlation := some c },
      watched.note sink [⟨.createTrace root, none⟩], later⟩ where
  rooted h := by
    refine ⟨nofun, ?_, ?_⟩
    · rintro _ ⟨⟩
      refine ⟨root, [], ?_, hRoot, List.forall_mem_nil _⟩
      rw [Watched.accepted_note, h.bare hNone]
      rfl
    · rintro _ id ⟨⟩ hId
      exact hGiven id hId
  root d hd := by
    rw [hNone] at hd
    cases hd
  handed := List.prefix_append ..

theorem of_span {span : Span} (hRoot : known.correlation = some c)
    (hSpan : span.FinishedIn c.rootTraceId) (sink : σ) :
    Advances n ⟨known, watched, supply⟩
      ⟨known, watched.note sink [⟨.createSpan span, none⟩], later⟩ where
  rooted h := by
    refine ⟨fun hNone => ?_, fun d hd => ?_, h.given⟩
    · rw [hRoot] at hNone
      cases hNone
    · obtain ⟨root, spans, hAccepted, hId, hSpans⟩ := h.grown d hd
      obtain rfl := Option.some.inj (hRoot.symm.trans hd)
      refine ⟨root, spans ++ [span], ?_, hId, List.forall_mem_append.2 ⟨hSpans, ?_⟩⟩
      · rw [Watched.accepted_note, hAccepted]
        simp
      · rw [List.forall_mem_singleton, hId]
        exact hSpan
  root d hd := by rw [hd, Option.map_some]
  handed := List.prefix_append ..

/-- A correlation of the same root trace. -/
theorem of_correlation {d : Correlation} (hRoot : known.correlation = some c)
    (hSame : d.rootTraceId = c.rootTraceId) :
    Advances n ⟨known, watched, supply⟩
      ⟨{ known with correlation := some d }, watched, later⟩ where
  rooted h := by
    refine ⟨nofun, ?_, ?_⟩
    · rintro _ ⟨⟩
      rw [hSame]
      exact h.grown c hRoot
    · rintro _ id ⟨⟩ hId
      rw [hSame]
      exact h.given c id hRoot hId
  root e he := by
    obtain rfl := Option.some.inj (hRoot.symm.trans he)
    rw [← hSame]
    rfl
  handed := List.prefix_refl _

end

end Advances

/-- What needs the root trace when there is none: it hands over a root trace first. If that is
refused it fails at once, and nothing has changed. -/
inductive TriesRoot {α : Type} (s : Session Narration (Watched σ)) :
    Except SinkError α → Session Narration (Watched σ) → Prop
  | accepted {answer : Except SinkError α} {t : Session Narration (Watched σ)} (root : Trace) :
      s.sink.handovers ++ [⟨.createTrace root, none⟩] <+: t.sink.handovers → TriesRoot s answer t
  | refused {e : SinkError} {t : Session Narration (Watched σ)} (root : Trace) :
      t.sink.handovers = s.sink.handovers ++ [⟨.createTrace root, some e⟩] →
      t.state.correlation = none → TriesRoot s (.error e) t

/-- A step that cannot do without the root trace. -/
structure RootStep {α : Type} (n : Narrator) (s : Session Narration (Watched σ))
    (answer : Except SinkError α) (t : Session Narration (Watched σ)) : Prop where
  advances : Advances n s t
  tries : s.state.correlation = none → TriesRoot s answer t

namespace RootStep

variable {α β : Type} {n : Narrator} {s s' t u : Session Narration (Watched σ)}

/-- A failure to create the root trace is passed on. -/
theorem error {e : SinkError} (h : RootStep n s (.error e : Except SinkError α) t) :
    RootStep n s (.error e : Except SinkError β) t where
  advances := h.advances
  tries hNone := by
    cases h.tries hNone with
    | accepted root hHanded => exact .accepted root hHanded
    | refused root hHanded hStill => exact .refused root hHanded hStill

/-- Once there is a root trace the narrator may go on. -/
theorem next {a : α} {answer : Except SinkError β} (h : RootStep n s (.ok a) t)
    (hNext : Advances n t u) : RootStep n s answer u where
  advances := h.advances.trans hNext
  tries hNone := by
    cases h.tries hNone with
    | accepted root hHanded => exact .accepted root (hHanded.trans hNext.handed)

theorem of_same {answer : Except SinkError α} (h : RootStep n s' answer t)
    (hRoot : s'.state.correlation = s.state.correlation)
    (hSink : s'.sink.handovers = s.sink.handovers) : RootStep n s answer t where
  advances := (Advances.of_same hRoot hSink).trans h.advances
  tries hNone := by
    cases h.tries (hRoot.trans hNone) with
    | accepted root hHanded => exact .accepted root (hSink ▸ hHanded)
    | refused root hHanded hStill => exact .refused root (hSink ▸ hHanded) hStill

end RootStep

theorem finishedIn_spanOf (e : StoryEvent) (storyId id traceId : String)
    (started ended : Instant) : (spanOf e storyId id traceId started ended).FinishedIn traceId :=
  ⟨rfl, nofun, rfl⟩

section

variable {n : Narrator} {s t : Session Narration (Watched σ)}

theorem Ensured.rootStep {answer : Except SinkError String} (h : Ensured n s answer t) :
    RootStep n s answer t := by
  cases h with
  | there known =>
      refine ⟨.refl s, fun hNone => ?_⟩
      rw [known] at hNone
      cases hNone
  | created unknown given =>
      exact ⟨.of_root unknown rfl given _, fun _ => .accepted _ (List.prefix_refl _)⟩
  | refused unknown => exact ⟨.of_refused _ _ _, fun _ => .refused _ rfl unknown⟩

theorem Recorded.rootStep {e : StoryEvent} {answer : Except SinkError String}
    (h : Recorded n s e answer t) : RootStep n s answer t := by
  cases h with
  | unrooted ensured => exact ensured.rootStep.error
  | accepted ensured =>
      obtain ⟨c, hc, rfl⟩ := ensured.exists_correlation
      exact ensured.rootStep.next (.of_span hc (finishedIn_spanOf ..) _)
  | refused ensured => exact ensured.rootStep.next (.of_refused ..)

theorem Opened.rootStep {storyId : Option String} {answer : Except SinkError Opening}
    (h : Opened n s storyId answer t) : RootStep n s answer t := by
  have hRenamed {supply : Supply} {root : Except SinkError String}
      {u : Session Narration (Watched σ)} (ensured : Ensured n (rename storyId s supply) root u) :
      RootStep n s root u := ensured.rootStep.of_same rfl rfl
  cases h with
  | unrooted ensured => exact (hRenamed ensured).error
  | unstarted ensured started => exact (hRenamed ensured).next started.rootStep.advances
  | opened ensured started => exact (hRenamed ensured).next started.rootStep.advances

theorem Closed.advances {o : Opening} {metrics : StoryMetrics} (h : Closed n s o metrics t) :
    Advances n s t := by
  obtain ⟨supply, answer, answer', u, hEnd, hMetrics⟩ := h.ended
  exact (hEnd.rootStep.of_same (s := s) rfl rfl).advances.trans hMetrics.rootStep.advances

end

section

open Work

variable {s : Session Narration (Watched σ)}

theorem advances_receive (n : Narrator) (h : Headers) :
    (n.receive h).Yields s fun taken t => Advances n s t ∧
      (taken = true ↔ (∃ id, h.get? n.header = some id) ∧ s.state.correlation ≠ none) := by
  refine .bind (yields_state ?_)
  split
  case h_1 incoming c hHeader hRoot =>
    refine .bind (yields_put (yields_pure
      ⟨.of_correlation hRoot (c.rootTraceId_addChild ..), ?_⟩))
    simp [hHeader, hRoot]
  case h_2 hOther =>
    refine yields_pure ⟨.refl s, ⟨nofun, ?_⟩⟩
    rintro ⟨⟨incoming, hHeader⟩, hRoot⟩
    obtain ⟨c, hc⟩ := Option.ne_none_iff_exists'.1 hRoot
    exact (hOther incoming c hHeader hc).elim

variable [Sink σ]

theorem rootStep_ensureRoot (n : Narrator) : n.ensureRoot.Yields s (RootStep n s) :=
  (ensured_ensureRoot n).mono fun _ _ h => h.rootStep

theorem rootStep_record (n : Narrator) (e : StoryEvent) :
    (n.record e).Yields s (RootStep n s) :=
  (recorded_record n e).mono fun _ _ h => h.rootStep

theorem rootStep_tell (n : Narrator) (note : StoryNote) :
    (n.tell note).Yields s (RootStep n s) :=
  .bind (yields_change ((rootStep_record n note.event).mono fun _ _ h => h.of_same rfl rfl))

theorem rootStep_headers (n : Narrator) : n.headers.Yields s (RootStep n s) := by
  refine .bind ((rootStep_ensureRoot n).mono fun answer t hRoot => ?_)
  cases answer with
  | error e => exact yields_pure hRoot.error
  | ok id => exact .bind (yields_state (yields_pure (hRoot.next (.refl t))))

theorem rootStep_generate {α : Type} (n : Narrator) (storyId : Option String)
    {work : String → Work Narration (Watched σ) α}
    (hWork : ∀ traceId s, Advances n s (work traceId s).2) :
    (n.generate storyId work).Yields s (RootStep n s) := by
  refine .bind ((opened_openStory n storyId).mono fun answer t hOpened => ?_)
  cases answer with
  | error e => exact yields_pure hOpened.rootStep.error
  | ok opening =>
      refine .bind (.bind ((closed_closeStory n opening).mono ?_))
      rintro _ u ⟨metrics, hClosed⟩
      exact yields_pure (hOpened.rootStep.next
        ((hWork opening.traceId t).trans hClosed.advances))

/-- What the narrator offers advances it, in any order and however often. -/
theorem Handles.advances {n : Narrator} {α : Type} {work : Work Narration (Watched σ) α}
    (h : n.Handles work) (s : Session Narration (Watched σ)) : Advances n s (work s).2 := by
  induction h generalizing s with
  | pure a => exact .refl s
  | bind hWork hNext ihWork ihNext => exact (ihWork s).trans (ihNext _ _)
  | state => exact .refl s
  | ensureRoot => exact (rootStep_ensureRoot n).advances
  | headers => exact (rootStep_headers n).advances
  | receive h => exact (advances_receive n h).1
  | record e => exact (rootStep_record n e).advances
  | tell note => exact (rootStep_tell n note).advances
  | generate storyId hWork ih => exact (rootStep_generate n storyId ih).advances
  | reset => exact .of_same rfl rfl
  | flush => exact .of_same rfl (List.append_nil _)
  | close =>
      show Advances n s (Work.close n.flushOnClose s).2
      unfold Work.close
      split
      · exact .of_same rfl (List.append_nil _)
      · exact .refl s

end

variable [Sink σ]

/-- What the narrator cannot do without its root trace. -/
inductive NeedsRoot (n : Narrator) :
    {α : Type} → Work Narration (Watched σ) (Except SinkError α) → Prop
  | ensureRoot : NeedsRoot n n.ensureRoot
  | headers : NeedsRoot n n.headers
  | record (e : StoryEvent) : NeedsRoot n (n.record e)
  | tell (note : StoryNote) : NeedsRoot n (n.tell note)
  | generate {α : Type} (storyId : Option String) {work : String → Work Narration (Watched σ) α} :
      (∀ traceId, n.Handles (work traceId)) → NeedsRoot n (n.generate storyId work)

theorem NeedsRoot.rootStep {n : Narrator} {α : Type}
    {work : Work Narration (Watched σ) (Except SinkError α)} (h : n.NeedsRoot work)
    (s : Session Narration (Watched σ)) : RootStep n s (work s).1 (work s).2 := by
  cases h with
  | ensureRoot => exact rootStep_ensureRoot n
  | headers => exact rootStep_headers n
  | record e => exact rootStep_record n e
  | tell note => exact rootStep_tell n note
  | generate storyId hWork =>
      exact rootStep_generate n storyId fun traceId => (hWork traceId).advances

omit [Sink σ] in
theorem Rooted.rootId?_eq {n : Narrator} {s : Session Narration (Watched σ)} (h : Rooted n s)
    {id : String} (hId : n.traceId = some id) : n.rootId? s.state = some id := by
  unfold rootId?
  split
  case h_1 c hRoot => rw [h.given c id hRoot hId]
  case h_2 => exact hId

/-- After any first work: the sink has accepted nothing, or one root trace and then finished spans
of it, and the correlation tells the two apart. A root trace that was given is the one in use. More
work changes the root trace no more once it was accepted. Before that, whatever needs it tries to
create it, and a refusal leaves nothing behind. A trace from elsewhere is noted if the headers carry
one and the root trace is there. -/
theorem root_created_once {n : Narrator} {config : TracingConfig} {sink : σ} {supply : Supply}
    {α β : Type} {first : Work Narration (Watched σ) α} {more : Work Narration (Watched σ) β}
    (hFirst : n.Handles first) (hMore : n.Handles more) {s t : Session Narration (Watched σ)}
    (hs : (first ⟨.start config, .start sink, supply⟩).2 = s) (ht : (more s).2 = t) :
    ((s.state.correlation = none ∧ s.sink.accepted = []) ∨
      s.state.correlation ≠ none ∧ ∃ (root : Trace) (spans : List Span),
        s.sink.accepted = .createTrace root :: spans.map .createSpan ∧
        (∀ span ∈ spans, span.FinishedIn root.id) ∧ n.rootId? s.state = some root.id) ∧
    (∀ id, n.traceId = some id → n.rootId? s.state = some id) ∧
    (s.state.correlation ≠ none →
      t.state.correlation ≠ none ∧ n.rootId? t.state = n.rootId? s.state) ∧
    (s.state.correlation = none →
      ∀ {γ : Type} {work : Work Narration (Watched σ) (Except SinkError γ)},
        n.NeedsRoot work → TriesRoot s (work s).1 (work s).2) ∧
    ∀ h : Headers, (n.receive h s).1 = true ↔
      (∃ id, h.get? n.header = some id) ∧ s.state.correlation ≠ none := by
  have hStart : Rooted n ⟨Narration.start config, Watched.start sink, supply⟩ :=
    ⟨fun _ => rfl, nofun, nofun⟩
  have hRooted : Rooted n s := hs ▸ (hFirst.advances _).rooted hStart
  have hAdvances : Advances n s t := ht ▸ hMore.advances s
  refine ⟨?accepted, fun id hId => hRooted.rootId?_eq hId, ?kept,
    fun hNone _ _ hNeeds => (hNeeds.rootStep s).tries hNone, fun h => (advances_receive n h).2⟩
  case accepted =>
    cases hRoot : s.state.correlation with
    | none => exact .inl ⟨rfl, hRooted.bare hRoot⟩
    | some c =>
        obtain ⟨root, spans, hAccepted, hId, hSpans⟩ := hRooted.grown c hRoot
        refine .inr ⟨Option.some_ne_none c, root, spans, hAccepted, hSpans, ?_⟩
        rw [rootId?, hRoot, hId]
  case kept =>
    intro hThere
    obtain ⟨c, hc⟩ := Option.ne_none_iff_exists'.1 hThere
    obtain ⟨d, hd, hSame⟩ := Option.map_eq_some_iff.1 (hAdvances.root c hc)
    refine ⟨hd ▸ Option.some_ne_none d, ?_⟩
    rw [rootId?, rootId?, hd, hc]
    exact congrArg some hSame

section

/-- A narrator of a session, in which the root trace is refused once. -/
def patient : Narrator := ⟨none, some "session", Headers.traceHeader, true⟩

def refusedOnce : Session Narration (Watched Gate) :=
  ⟨.start .default, .start (Gate.start.refuse .createTrace 1), .counting ⟨0, 0⟩⟩

def outside : Headers := [(Headers.traceHeader, "t9")]

/-- Headers are asked for and then come from outside before there is a root trace. -/
def beforeRoot : Work Narration (Watched Gate) Bool := do
  discard patient.headers
  patient.receive outside

/-- A story with another one in it. -/
def storyInStory : Work Narration (Watched Gate) (Except SinkError Bool) :=
  patient.generate (some "s1") fun _ => do
    discard (patient.generate none fun _ => patient.record { kind := .beatAnalyzed })
    patient.receive outside

theorem root_created_once_storyInStory :
    patient.Handles beforeRoot ∧ patient.Handles storyInStory ∧
    ∃ s t : Session Narration (Watched Gate), beforeRoot refusedOnce = (false, s) ∧
      storyInStory s = (.ok true, t) ∧ TriesRoot s (.ok true) t ∧ t.sink.handovers.length = 9 ∧
      ∃ (root : Trace) (spans : List Span),
        t.sink.accepted = .createTrace root :: spans.map .createSpan ∧
        (∀ span ∈ spans, span.FinishedIn root.id) ∧ patient.rootId? t.state = some root.id := by
  have hBefore : patient.Handles beforeRoot :=
    .bind (.bind .headers fun _ => .pure _) fun _ => .receive outside
  have hInner : ∀ traceId : String, patient.Handles (σ := Watched Gate) (do
      discard (patient.generate none fun _ => patient.record { kind := .beatAnalyzed })
      patient.receive outside) := fun _ =>
    .bind (.bind (.generate none fun _ => .record _) fun _ => .pure _) fun _ => .receive outside
  have hFirst : (beforeRoot ⟨Narration.start .default, Watched.start (Gate.start.refuse
    .createTrace 1), .counting ⟨0, 0⟩⟩).2 = (beforeRoot refusedOnce).2 := rfl
  have hBoth : ((beforeRoot >>= fun _ => storyInStory) ⟨Narration.start .default, Watched.start
    (Gate.start.refuse .createTrace 1), .counting ⟨0, 0⟩⟩).2 =
      (storyInStory (beforeRoot refusedOnce).2).2 := rfl
  obtain ⟨-, -, -, hTries, -⟩ := root_created_once hBefore (.pure ()) hFirst rfl
  obtain ⟨hNone | ⟨-, hAccepted⟩, -⟩ := root_created_once
    (hBefore.bind fun _ => .generate (some "s1") hInner) (.pure ()) hBoth rfl
  · cases hNone.1
  · exact ⟨hBefore, .generate _ hInner, _, _, rfl, rfl, hTries rfl (.generate _ hInner), rfl,
      hAccepted⟩

end

end Narrator

end StoryTrace
