import StoryTrace.Proofs.Story.Deeds
import StoryTrace.Proofs.Story.Rooting
import StoryTrace.Proofs.Table

/-!
# The name of a story

The root trace and the correlation are given the name that the story has when they are created, and
headers and spans the name that it has when they are made. As long as no story is opened under
another name once the root trace is there, these names are all the same.
-/

namespace StoryTrace

@[simp] theorem Correlation.storyId_addChild (c : Correlation) (traceId system : String) :
    (c.addChild traceId system).storyId = c.storyId := by
  unfold addChild visit
  split <;> rfl

namespace Narrator

variable {σ : Type}

/-- A story that is opened when the root trace is there has no name of its own, or the name that the
root trace was created under. -/
def Deed.keepsName : Deed → Bool
  | .opened (some storyId) (some known) => storyId = known
  | _ => true

/-- The span carries the name, unless its event has brought one in its own metadata. -/
def Carries (deeds : List Deed) (name rootId : String) (span : Span) : Prop :=
  span.metadata.get? "story_id" = some (.string name) ∨
    ∃ e, .recorded e ∈ deeds ∧ span.Tells e rootId ∧ e.metadata.get? "story_id" ≠ none

/-- The root trace was accepted under the name, and then spans. If the deeds have kept the name, the
story still has it, and the spans carry it. -/
structure NamedAlike (deeds : List Deed) (s : Session Narration (Watched σ)) (rootId name : String)
    (root : Trace) (spans : List Span) : Prop where
  accepted : s.sink.accepted = .createTrace root :: spans.map .createSpan
  id_root : root.id = rootId
  name_root : root.metadata.get? "story_id" = some (.string name)
  kept : (∀ d ∈ deeds, d.keepsName = true) →
    s.state.storyId = name ∧ ∀ span ∈ spans, Carries deeds name rootId span

/-- Nothing was accepted as long as there is no root trace. -/
structure Names (deeds : List Deed) (s : Session Narration (Watched σ)) : Prop where
  bare : s.state.correlation = none → s.sink.accepted = []
  rooted : ∀ c, s.state.correlation = some c →
    ∃ root spans, NamedAlike deeds s c.rootTraceId c.storyId root spans

theorem get?_rootTrace (id storyId : String) (sessionId : Option String) (now : Instant)
    (createdAt : String) :
    (rootTrace id storyId sessionId now createdAt).metadata.get? "story_id" =
      some (.string storyId) := by
  simp [rootTrace, Table.ofList, Table.merge]

theorem get?_spanMetadata {e : StoryEvent} (h : e.metadata.get? "story_id" = none)
    (storyId : String) : (e.spanMetadata storyId).get? "story_id" = some (.string storyId) := by
  rw [StoryEvent.spanMetadata, Table.get?_merge_of_get?_eq_none h]
  simp [Table.ofList, Table.merge]

section

variable {n : Narrator} {deeds : List Deed} {s t : Session Narration (Watched σ)}

theorem Carries.mono {name rootId : String} {span : Span} (h : Carries deeds name rootId span)
    (more : List Deed) : Carries (deeds ++ more) name rootId span := by
  rcases h with hName | ⟨e, he, hTells, hOwn⟩
  · exact .inl hName
  · exact .inr ⟨e, List.mem_append_left _ he, hTells, hOwn⟩

/-- A span that is made now carries the name that the story has now. -/
theorem carries_spanOf {e : StoryEvent} (hKnown : .recorded e ∈ deeds ∨ e.metadata = [])
    (name id rootId : String) (started ended : Instant) :
    Carries deeds name rootId (spanOf e name id rootId started ended) := by
  by_cases hOwn : e.metadata.get? "story_id" = none
  · exact .inl (get?_spanMetadata hOwn name)
  · rcases hKnown with hMem | hNone
    · exact .inr ⟨e, hMem, ⟨name, id, started, ended, rfl⟩, hOwn⟩
    · rw [hNone] at hOwn
      exact absurd rfl hOwn

namespace Names

/-- Deeds that leave the sink alone, and the root trace. -/
theorem append (h : Names deeds s) (more : List Deed) (hSink : t.sink.accepted = s.sink.accepted)
    (hBare : t.state.correlation = none → s.state.correlation = none)
    (hRooted : ∀ d, t.state.correlation = some d → ∃ c, s.state.correlation = some c ∧
      d.rootTraceId = c.rootTraceId ∧ d.storyId = c.storyId)
    (hKept : ∀ c, s.state.correlation = some c → s.state.storyId = c.storyId →
      (∀ d ∈ more, d.keepsName = true) → t.state.storyId = c.storyId) :
    Names (deeds ++ more) t where
  bare hNone := hSink.trans (h.bare (hBare hNone))
  rooted d hd := by
    obtain ⟨c, hc, hId, hName⟩ := hRooted d hd
    obtain ⟨root, spans, hAlike⟩ := h.rooted c hc
    rw [hId, hName]
    refine ⟨root, spans, hSink.trans hAlike.accepted, hAlike.id_root, hAlike.name_root, ?_⟩
    intro hKeeps
    -- only a name that was kept so far can be kept by what is done now
    obtain ⟨hFirst, hMore⟩ := List.forall_mem_append.1 hKeeps
    obtain ⟨hStory, hSpans⟩ := hAlike.kept hFirst
    exact ⟨hKept c hc hStory hMore, fun span hSpan => (hSpans span hSpan).mono more⟩

/-- Deeds that do not rename the story either. -/
theorem of_same (h : Names deeds s) (more : List Deed) (hSink : t.sink.accepted = s.sink.accepted)
    (hRoot : t.state.correlation = s.state.correlation)
    (hStory : t.state.storyId = s.state.storyId) : Names (deeds ++ more) t :=
  h.append more hSink (fun hNone => hRoot ▸ hNone)
    (fun d hd => ⟨d, hRoot ▸ hd, rfl, rfl⟩) fun _ _ hName _ => hStory.trans hName

theorem still (h : Names deeds s) (hSink : t.sink.accepted = s.sink.accepted)
    (hRoot : t.state.correlation = s.state.correlation)
    (hStory : t.state.storyId = s.state.storyId) : Names deeds t := by
  have hSame := h.of_same [] hSink hRoot hStory
  rwa [List.append_nil] at hSame

theorem received (h : Names deeds s) (headers : Headers) :
    Names (deeds ++ [.received headers (n.receive headers s).1]) (n.receive headers s).2 := by
  suffices hYields : (n.receive headers).Yields s fun taken t =>
      Names (deeds ++ [.received headers taken]) t from hYields
  refine .bind (Work.yields_state ?_)
  split
  case h_1 incoming c hHeader hRoot =>
    refine .bind (Work.yields_put (Work.yields_pure
      (h.append _ rfl nofun ?_ fun _ _ hName _ => hName)))
    rintro _ ⟨⟩
    exact ⟨c, hRoot, c.rootTraceId_addChild .., c.storyId_addChild ..⟩
  case h_2 => exact Work.yields_pure (h.of_same _ rfl rfl rfl)

theorem opened (h : Names deeds s) (storyId : Option String) (supply : Supply) :
    Names (deeds ++ [.opened storyId (rootName? s.state)]) (rename storyId s supply) := by
  refine h.append _ rfl id (fun d hd => ⟨d, hd, rfl, rfl⟩) fun c hc hName hKeeps => ?_
  have hKeep := List.forall_mem_singleton.1 hKeeps
  rw [rootName?, hc, Option.map_some] at hKeep
  cases storyId with
  | none => exact hName
  | some id => exact of_decide_eq_true hKeep

theorem ensured {answer : Except SinkError String} (h : Names deeds s)
    (hEnsured : Ensured n s answer t) : Names deeds t := by
  cases hEnsured with
  | there => exact h
  | @created id createdAt created now sink supply unknown given =>
      refine ⟨nofun, ?_⟩
      rintro _ ⟨⟩
      refine ⟨rootTrace id s.state.storyId n.sessionId created createdAt, [], ?_, rfl,
        get?_rootTrace .., fun _ => ⟨rfl, List.forall_mem_nil _⟩⟩
      rw [Watched.accepted_note, h.bare unknown]
      rfl
  | refused => exact h.still (Watched.accepted_note_refused ..) rfl rfl

theorem sent {c : Correlation} {e : StoryEvent} (h : Names deeds s)
    (hRoot : s.state.correlation = some c) (hKnown : .recorded e ∈ deeds ∨ e.metadata = [])
    (id : String) (started ended : Instant) (refusal : Option SinkError) (sink : σ)
    (supply : Supply) : Names deeds ⟨s.state, s.sink.note sink
      [⟨.createSpan (spanOf e s.state.storyId id c.rootTraceId started ended), refusal⟩],
      supply⟩ := by
  cases refusal with
  | some error => exact h.still (Watched.accepted_note_refused ..) rfl rfl
  | none =>
      refine ⟨fun hNone => ?_, fun d hd => ?_⟩
      · cases hRoot.symm.trans hNone
      · obtain rfl := Option.some.inj (hRoot.symm.trans hd)
        obtain ⟨root, spans, hAlike⟩ := h.rooted c hRoot
        have hCarries := carries_spanOf hKnown s.state.storyId id c.rootTraceId started ended
        generalize spanOf e s.state.storyId id c.rootTraceId started ended = span at hCarries ⊢
        refine ⟨root, spans ++ [span], ?_, hAlike.id_root, hAlike.name_root, fun hKeeps => ?_⟩
        · rw [Watched.accepted_note, hAlike.accepted, List.map_append]
          rfl
        · obtain ⟨hStory, hSpans⟩ := hAlike.kept hKeeps
          -- the span was made under the name of now, which is still that of the root trace
          rw [hStory] at hCarries
          exact ⟨hStory, List.forall_mem_append.2 ⟨hSpans, List.forall_mem_singleton.2 hCarries⟩⟩

end Names

end

theorem follows_names (n : Narrator) : Follows (σ := σ) n Names where
  recorded e h := h.of_same _ rfl rfl rfl
  received headers h := h.received headers
  opened storyId supply h := h.opened storyId supply
  ensured h hEnsured := h.ensured hEnsured
  sent id started ended refusal sink supply h hRoot hKnown :=
    h.sent hRoot hKnown id started ended refusal sink supply
  measured metrics supply h := h.still (by rfl) (by rfl) (by rfl)
  flushed sink h := h.still (by simp [Watched.accepted, Watched.note]) (by rfl) (by rfl)

variable [Sink σ]

/-- Once the root trace is there, headers are given at once. -/
theorem headers_of_rooted {n : Narrator} {s : Session Narration (Watched σ)} {c : Correlation}
    (hRoot : s.state.correlation = some c) : ∃ h : Headers,
      n.headers s = (.ok h, s) ∧ h.get? Headers.storyHeader = some s.state.storyId := by
  have hEnsure : n.ensureRoot s = (.ok c.rootTraceId, s) := by
    rw [ensureRoot, Work.run_bind, Work.run_state, hRoot]
    rfl
  have hHeaders : ∃ h : Headers, n.headers s = (.ok h, s) := by
    rw [headers, Work.run_bind, hEnsure]
    exact ⟨_, rfl⟩
  obtain ⟨h, hAnswer⟩ := hHeaders
  obtain ⟨-, hStory⟩ := ensured_headers (s := s) n
  rw [hAnswer] at hStory
  exact ⟨h, hAnswer, hStory h rfl⟩

/-- One name is in force everywhere: the story, the correlation, the headers and the root trace have
it, and every span. -/
def OneName (n : Narrator) (s : Session Narration (Watched σ)) : Prop :=
  ∀ c, s.state.correlation = some c → ∃ (root : Trace) (spans : List Span),
    s.sink.accepted = .createTrace root :: spans.map .createSpan ∧
    c.storyId = s.state.storyId ∧
    root.metadata.get? "story_id" = some (.string s.state.storyId) ∧
    (∃ h : Headers, n.headers s = (.ok h, s) ∧
      h.get? Headers.storyHeader = some s.state.storyId) ∧
    ∀ span ∈ spans, span.metadata.get? "story_id" = some (.string s.state.storyId)

/-- The correlation tells the name of the root trace, and the headers that of the story. As long as
no story is opened under another name once the root trace is there, it is one name, and every span
carries it unless its event has brought one of its own. -/
theorem one_name_in_force {n : Narrator} {config : TracingConfig} {sink : σ} {supply : Supply}
    {α : Type} {work : Work Narration (Watched σ) α} {t : Session Narration (Watched σ)}
    {c : Correlation} (hHandles : n.Handles work)
    (hWork : (work ⟨.start config, .start sink, supply⟩).2 = t)
    (hRoot : t.state.correlation = some c) :
    (∃ deeds, n.Performs work ⟨.start config, .start sink, supply⟩ deeds) ∧
    ∀ deeds, n.Performs work ⟨.start config, .start sink, supply⟩ deeds →
      ∃ (root : Trace) (spans : List Span),
        t.sink.accepted = .createTrace root :: spans.map .createSpan ∧
        root.metadata.get? "story_id" = some (.string c.storyId) ∧
        (∃ h : Headers, n.headers t = (.ok h, t) ∧
          h.get? Headers.storyHeader = some t.state.storyId) ∧
        ((∀ d ∈ deeds, d.keepsName = true) → t.state.storyId = c.storyId ∧
          ∀ span ∈ spans, Carries deeds t.state.storyId root.id span) := by
  refine ⟨hHandles.exists_performs _, fun deeds hPerforms => ?_⟩
  have hStart : Names [] ⟨Narration.start config, Watched.start sink, supply⟩ :=
    ⟨fun _ => rfl, nofun⟩
  have hNames : Names deeds t := hWork ▸ (n.follows_names.performs hStart hPerforms)
  obtain ⟨root, spans, hAlike⟩ := hNames.rooted c hRoot
  refine ⟨root, spans, hAlike.accepted, hAlike.name_root, headers_of_rooted hRoot, fun hKeeps => ?_⟩
  obtain ⟨hStory, hSpans⟩ := hAlike.kept hKeeps
  rw [hStory, hAlike.id_root]
  exact ⟨rfl, hSpans⟩

section

def firstNamed : Session Narration (Watched Gate) :=
  ⟨.start { TracingConfig.default with storyId := some "s1" }, .start Gate.start,
    .counting ⟨0, 0⟩⟩

/-- A story with a name of its own, before there is a root trace. -/
def firstStory : Work Narration (Watched Gate) (Except SinkError (Except SinkError String)) :=
  patient.generate (some "s2") fun _ => patient.record { kind := .beatAnalyzed }

/-- Another story under the same name. -/
def namedTwice : Work Narration (Watched Gate) (Except SinkError Unit) :=
  firstStory >>= fun _ => patient.generate (some "s2") fun _ => pure ()

theorem one_name_in_force_namedTwice :
    patient.Handles namedTwice ∧ ∃ t deeds, (namedTwice firstNamed).2 = t ∧
      patient.Performs namedTwice firstNamed deeds ∧ (∀ d ∈ deeds, d.keepsName = true) ∧
      t.state.storyId = "s2" ∧ ∃ (root : Trace) (spans : List Span), spans.length = 7 ∧
        t.sink.accepted = .createTrace root :: spans.map .createSpan ∧
        ∀ span ∈ spans, Carries deeds "s2" root.id span := by
  have hHandles : patient.Handles namedTwice :=
    .bind (.generate _ fun _ => .record _) fun _ => .generate _ fun _ => .pure _
  obtain ⟨o, u, hFirst⟩ : ∃ o u, patient.openStory (some "s2") firstNamed = (.ok o, u) :=
    ⟨_, _, rfl⟩
  obtain ⟨o', u', hSecond⟩ : ∃ o u,
      patient.openStory (some "s2") (firstStory firstNamed).2 = (.ok o, u) := ⟨_, _, rfl⟩
  have hFirstName : rootName? firstNamed.state = none := rfl
  have hName : rootName? (firstStory firstNamed).2.state = some "s2" := rfl
  have hFirstDeeds : patient.Performs firstStory firstNamed _ := .generate hFirst (.record _ u)
  have hPerforms : patient.Performs namedTwice firstNamed _ :=
    .bind hFirstDeeds (.generate hSecond (.pure () u'))
  rw [hFirstName, hName] at hPerforms
  have hKeeps : ∀ d ∈ ([.opened (some "s2") none, .recorded { kind := .beatAnalyzed }] ++
      [.opened (some "s2") (some "s2")] : List Deed), d.keepsName = true := by decide
  have hCount : (namedTwice firstNamed).2.sink.accepted.length = 8 := rfl
  obtain ⟨c, hc⟩ : ∃ c, (namedTwice firstNamed).2.state.correlation = some c := ⟨_, rfl⟩
  obtain ⟨-, hNames⟩ := one_name_in_force hHandles (rfl : (namedTwice firstNamed).2 = _) hc
  obtain ⟨root, spans, hAccepted, -, -, hKept⟩ := hNames _ hPerforms
  obtain ⟨hStory, hSpans⟩ := hKept hKeeps
  refine ⟨hHandles, _, _, rfl, hPerforms, hKeeps, rfl, root, spans, ?_, hAccepted, hSpans⟩
  rw [hAccepted] at hCount
  simpa using hCount

def namedByEvent : Work Narration (Watched Gate) (Except SinkError String) :=
  patient.record { kind := .beatAnalyzed, metadata := [("story_id", .string "s9")] }

/-- The story is renamed when the root trace is there. -/
def renamedLate : Work Narration (Watched Gate) (Except SinkError Unit) := do
  discard patient.ensureRoot
  patient.generate (some "s2") fun _ => pure ()

/-- Neither is one name in force when an event has brought its own name, nor when the story has got
another one. -/
theorem story_named_otherwise :
    (patient.Handles namedByEvent ∧ ¬ OneName patient (namedByEvent firstNamed).2) ∧
      patient.Handles renamedLate ∧ ¬ OneName patient (renamedLate firstNamed).2 := by
  refine ⟨⟨.record _, fun hOne => ?_⟩,
    .bind (.bind .ensureRoot fun _ => .pure _) fun _ => .generate _ fun _ => .pure _,
    fun hOne => ?_⟩
  · obtain ⟨root, spans, hAccepted, -, -, -, hSpans⟩ := hOne _ rfl
    have hOwn : (namedByEvent firstNamed).2.sink.createdSpans.map (·.metadata.get? "story_id") =
        [some (.string "s9")] := rfl
    have hName : (namedByEvent firstNamed).2.state.storyId = "s1" := rfl
    have hMade : (namedByEvent firstNamed).2.sink.createdSpans = spans := by
      rw [Watched.createdSpans, hAccepted]
      exact (List.filterMap_map ..).trans List.filterMap_some
    rw [hMade, List.map_eq_singleton_iff] at hOwn
    obtain ⟨span, rfl, hOther⟩ := hOwn
    have hSame := hSpans span (.head _)
    rw [hOther, hName] at hSame
    simp at hSame
  · obtain ⟨_, _, _, hName, _⟩ := hOne _ rfl
    exact absurd hName (by decide)

end

end Narrator

end StoryTrace
