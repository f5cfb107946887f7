import StoryTrace.Proofs.Story.Deeds
import StoryTrace.Proofs.Story.Metrics
import StoryTrace.Proofs.Story.Rooting
import StoryTrace.Proofs.Story.Timing

/-!
# A story around work

Work for a story is done after the root trace and the start of the story were accepted, and not at
all otherwise. What comes after the work does not change its result: the end of the story and its
metrics are offered to the sink, and what the sink refuses is missing from the trace.
-/

namespace StoryTrace

namespace Watched

variable {σ : Type} {w w' : Watched σ}

theorem createdSpans_of_handovers {noted : List Handover}
    (h : w'.handovers = w.handovers ++ noted) : w'.createdSpans =
      w.createdSpans ++ (noted.filterMap Handover.accepted?).filterMap Write.createdSpan? := by
  rw [createdSpans, accepted, h, List.filterMap_append, List.filterMap_append]
  rfl

end Watched

/-- The span is that of an event of the given kind, closed at once. -/
structure Span.Marks (s : Span) (eventType traceId : String) (parentId : Option String) : Prop where
  eventType : s.metadata.get? "event_type" = some (.string eventType)
  traceId : s.traceId = traceId
  parentId : s.parentId = parentId
  status : s.status = .succeeded

theorem Span.Tells.marks {s : Span} {e : StoryEvent} {traceId : String} (h : s.Tells e traceId)
    (hOwn : e.metadata = []) : s.Marks e.kind.text traceId e.parentId := by
  obtain ⟨storyId, id, started, ended, rfl⟩ := h
  refine ⟨?_, rfl, rfl, rfl⟩
  show (e.spanMetadata storyId).get? "event_type" = _
  rw [StoryEvent.spanMetadata, hOwn]
  simp [Table.ofList, Table.merge]

/-- The span that starts a story. -/
structure Span.StartsStory (s : Span) (name root : String) : Prop where
  marks : s.Marks "narrative.story.start" root none
  input : s.input = .object [("story_id", .string name)]
  output : s.output = none

/-- The span that ends a story which the given span has started. -/
structure Span.EndsStory (s : Span) (name root startId : String) (metrics : StoryMetrics) :
    Prop where
  marks : s.Marks "narrative.story.end" root (some startId)
  input : s.input = .object [("story_id", .string name)]
  output : s.output = some (.object [("beats_generated", .number (.int metrics.beats)),
    ("duration_ms", .ofFloat metrics.totalMs)])

/-- The span with the metrics of a story. -/
structure Span.MeasuresStory (s : Span) (root : String) (metrics : StoryMetrics) : Prop where
  marks : s.Marks "narrative.story.metrics" root none
  input : s.input = .object []
  output : metrics.arcs.Sorted → s.output = some (.object (Table.ofList metrics.members))

namespace Narrator

variable {σ : Type}

theorem startsStory_of_tells {s : Span} {name root : String} (h : s.Tells (startEvent name) root) :
    s.StartsStory name root := by
  have hMarks := h.marks rfl
  obtain ⟨storyId, id, started, ended, rfl⟩ := h
  exact ⟨hMarks, rfl, rfl⟩

theorem endsStory_of_tells {s : Span} {name root startId : String} {metrics : StoryMetrics}
    (h : s.Tells (endEvent name metrics startId) root) : s.EndsStory name root startId metrics := by
  have hMarks := h.marks rfl
  obtain ⟨storyId, id, started, ended, rfl⟩ := h
  have hOutput : (endEvent name metrics startId).output =
      some [("beats_generated", .ofNat metrics.beats), ("duration_ms", .ofFloat metrics.totalMs)] := by
    have hBefore : "beats_generated" < "duration_ms" := by decide
    simp [endEvent, Table.ofList, Table.merge, Table.put, hBefore]
  exact ⟨hMarks, rfl, congrArg (·.map Json.object) hOutput⟩

theorem measuresStory_of_tells {s : Span} {root : String} {metrics : StoryMetrics}
    (h : s.Tells (metricsEvent metrics) root) : s.MeasuresStory root metrics := by
  have hMarks := h.marks rfl
  obtain ⟨storyId, id, started, ended, rfl⟩ := h
  have hOutput (h : metrics.arcs.Sorted) : (metricsEvent metrics).output =
      some (Table.ofList metrics.members) := by
    rw [metricsEvent, StoryMetrics.canonical_toJson h, StorySpan.objectOf]
  exact ⟨hMarks, rfl, fun hSorted => congrArg (·.map Json.object) (hOutput hSorted)⟩

/-- What is handed over for the root trace if it is there in the end. -/
inductive Rooting : Option Correlation → List Handover → Prop
  | there (c : Correlation) : Rooting (some c) []
  | accepted (root : Trace) : Rooting none [⟨.createTrace root, none⟩]

/-- The root trace or the start of the story was refused. -/
inductive Unbegun (s : Session Narration (Watched σ)) (name : String) (e : SinkError)
    (t : Session Narration (Watched σ)) : Prop
  | unrooted (root : Trace) (unknown : s.state.correlation = none)
      (handed : t.sink.handovers = s.sink.handovers ++ [⟨.createTrace root, some e⟩])
  | unstarted {rooting : List Handover} (rooted : Rooting s.state.correlation rooting)
      (root : String) (start : Span) (starts : start.StartsStory name root)
      (handed : t.sink.handovers =
        s.sink.handovers ++ rooting ++ [⟨.createSpan start, some e⟩])

/-- The root trace is there, and the start of the story was accepted in it. -/
structure Begun (s : Session Narration (Watched σ)) (name root : String) (start : Span)
    (t : Session Narration (Watched σ)) : Prop where
  starts : start.StartsStory name root
  handed : ∃ rooting, Rooting s.state.correlation rooting ∧
    t.sink.handovers = s.sink.handovers ++ rooting ++ [⟨.createSpan start, none⟩]
  known : t.state.correlation.map (·.rootTraceId) = some root

section

variable {n : Narrator} {s t : Session Narration (Watched σ)} {e : StoryEvent}

theorem Ensured.rooting {root : String} (h : Ensured n s (.ok root) t) : ∃ rooting,
    Rooting s.state.correlation rooting ∧ t.sink.handovers = s.sink.handovers ++ rooting ∧
      t.state.storyId = s.state.storyId := by
  cases h with
  | there known =>
      rw [known]
      exact ⟨[], .there _, (List.append_nil _).symm, rfl⟩
  | created unknown =>
      rw [unknown]
      exact ⟨_, .accepted _, rfl, rfl⟩

/-- Once the root trace is there, a recorded event changes nothing but the sink. -/
theorem Recorded.of_known {answer : Except SinkError String} (h : Recorded n s e answer t)
    {c : Correlation} (known : s.state.correlation = some c) : ∃ span refusal,
      span.Tells e c.rootTraceId ∧ t.state = s.state ∧
      t.sink.handovers = s.sink.handovers ++ [⟨.createSpan span, refusal⟩] ∧
      answer = refusal.elim (.ok span.id) .error := by
  have hThere {root : String} {u : Session Narration (Watched σ)}
      (ensured : Ensured n s (.ok root) u) : u = s ∧ root = c.rootTraceId := by
    cases ensured with
    | there known' =>
        obtain rfl := Option.some.inj (known.symm.trans known')
        exact ⟨rfl, rfl⟩
    | created unknown => cases known.symm.trans unknown
  cases h with
  | unrooted ensured =>
      cases ensured with
      | refused unknown => cases known.symm.trans unknown
  | accepted ensured =>
      obtain ⟨rfl, rfl⟩ := hThere ensured
      exact ⟨_, none, ⟨_, _, _, _, rfl⟩, rfl, rfl, rfl⟩
  | refused ensured =>
      obtain ⟨rfl, rfl⟩ := hThere ensured
      exact ⟨_, some _, ⟨_, _, _, _, rfl⟩, rfl, rfl, rfl⟩

theorem Opened.unbegun {storyId : Option String} {error : SinkError}
    (h : Opened n s storyId (.error error) t) :
    Unbegun s (storyId.getD s.state.storyId) error t := by
  cases h with
  | unrooted ensured =>
      cases ensured with
      | refused unknown => exact .unrooted _ unknown rfl
  | unstarted ensured started =>
      obtain ⟨c, hc, -⟩ := ensured.exists_correlation
      obtain ⟨rooting, hRooting, hHanded, hName⟩ := ensured.rooting
      obtain ⟨start, refusal, hTells, -, hStart, hAnswer⟩ := started.of_known hc
      rw [hName] at hTells
      cases refusal with
      | none => cases hAnswer
      | some e =>
          cases hAnswer
          exact .unstarted hRooting _ start (startsStory_of_tells hTells)
            (hStart.trans (congrArg (· ++ _) hHanded))

theorem Opened.begun {storyId : Option String} {o : Opening}
    (h : Opened n s storyId (.ok o) t) :
    o.storyId = storyId.getD s.state.storyId ∧ o.began = s.supply.takeLap.1 ∧
      ∃ start, Begun s o.storyId o.traceId start t ∧ start.id = o.spanId := by
  cases h with
  | opened ensured started =>
      obtain ⟨c, hc, rfl⟩ := ensured.exists_correlation
      obtain ⟨rooting, hRooting, hHanded, hName⟩ := ensured.rooting
      obtain ⟨start, refusal, hTells, hSame, hStart, hAnswer⟩ := started.of_known hc
      cases refusal with
      | some e => cases hAnswer
      | none =>
          cases hAnswer
          refine ⟨hName, rfl, start,
            ⟨startsStory_of_tells hTells, ⟨rooting, hRooting, ?_⟩, ?_⟩, rfl⟩
          · exact hStart.trans (congrArg (· ++ _) hHanded)
          · rw [hSame, hc, Option.map_some]

/-- The end of the story and its metrics were offered to the sink, which may refuse either. -/
structure Ended (s : Session Narration (Watched σ)) (o : Opening) (root : String)
    (metrics : StoryMetrics) (ended measured : Span) (refusal refusal' : Option SinkError)
    (t : Session Narration (Watched σ)) : Prop where
  tellsEnd : ended.Tells (endEvent o.storyId metrics o.spanId) root
  tellsMetrics : measured.Tells (metricsEvent metrics) root
  state : t.state = { s.state with metrics }
  handed : t.sink.handovers = s.sink.handovers ++
    [⟨.createSpan ended, refusal⟩, ⟨.createSpan measured, refusal'⟩]

theorem Closed.ended_of_known {o : Opening} {metrics : StoryMetrics} (h : Closed n s o metrics t)
    {c : Correlation} (known : s.state.correlation = some c) :
    ∃ ended measured refusal refusal',
      Ended s o c.rootTraceId metrics ended measured refusal refusal' t := by
  obtain ⟨supply, answer, answer', u, hEnd, hMetrics⟩ := h.ended
  obtain ⟨ended, refusal, hTellsEnd, hState, hHanded, -⟩ := hEnd.of_known known
  have hStill : u.state.correlation = some c := by rw [hState, known]
  obtain ⟨measured, refusal', hTells, hState', hHanded', -⟩ := hMetrics.of_known hStill
  refine ⟨ended, measured, refusal, refusal', hTellsEnd, hTells, hState'.trans hState, ?_⟩
  rw [hHanded', hHanded, List.append_assoc]
  rfl

end

theorem Rooting.createdSpans {known : Option Correlation} {rooting : List Handover}
    (h : Rooting known rooting) :
    (rooting.filterMap Handover.accepted?).filterMap Write.createdSpan? = [] := by
  cases h <;> rfl

theorem Begun.createdSpans {s t : Session Narration (Watched σ)} {name root : String} {start : Span}
    (h : Begun s name root start t) :
    t.sink.createdSpans = s.sink.createdSpans ++ [start] := by
  obtain ⟨rooting, hRooting, hHanded⟩ := h.handed
  rw [List.append_assoc] at hHanded
  rw [Watched.createdSpans_of_handovers hHanded, List.filterMap_append, List.filterMap_append,
    hRooting.createdSpans]
  rfl

theorem Ended.createdSpans {s t : Session Narration (Watched σ)} {o : Opening} {root : String}
    {metrics : StoryMetrics} {ended measured : Span} {refusal refusal' : Option SinkError}
    (h : Ended s o root metrics ended measured refusal refusal' t) :
    t.sink.createdSpans = s.sink.createdSpans ++ (if refusal.isNone then [ended] else []) ++
      if refusal'.isNone then [measured] else [] := by
  rw [Watched.createdSpans_of_handovers h.handed, List.append_assoc]
  cases refusal <;> cases refusal' <;> rfl

variable [Sink σ]

/-- A story that is begun goes on with the work and then ends, whatever the sink answers then. If it
is not begun, because of the first refusal, nothing else is done. The end and the metrics tell the
metrics that the work has left, with the time of the whole story by the stopwatch, which is spread
over its beats if there are any. -/
theorem generation_brackets_work (n : Narrator) (storyId : Option String)
    (s : Session Narration (Watched σ)) :
    (∃ e t, Unbegun s (storyId.getD s.state.storyId) e t ∧
      ∀ {α : Type} (work : String → Work Narration (Watched σ) α),
        n.generate storyId work s = (.error e, t)) ∨
    ∃ root start t, Begun s (storyId.getD s.state.storyId) root start t ∧
      ∀ {α : Type} {work : String → Work Narration (Watched σ) α},
        (∀ traceId, n.Handles (work traceId)) → ∀ a v, work root t = (a, v) →
        ∃ (u : Session Narration (Watched σ)) (nanos : Nat) (total : Float) (metrics : StoryMetrics)
          (during : List Span) (ended measured : Span) (refusal refusal' : Option SinkError),
          n.generate storyId work s = (.ok a, u) ∧
          s.supply.laps < v.supply.laps ∧
          nanos = s.supply.stopwatch v.supply.laps - s.supply.stopwatch s.supply.laps ∧
          total = (Float.ofNat (nanos / 1000000000) +
            Float.ofNat (nanos % 1000000000) / 1000000000.0) * 1000.0 ∧
          metrics = { v.state.metrics with
            totalMs := total
            averageBeatMs := if 0 < v.state.metrics.beats
              then total / Float.ofNat v.state.metrics.beats
              else v.state.metrics.averageBeatMs } ∧
          u.state = { v.state with metrics } ∧
          ended.EndsStory (storyId.getD s.state.storyId) root start.id metrics ∧
          measured.MeasuresStory root metrics ∧
          u.sink.handovers = v.sink.handovers ++
            [⟨.createSpan ended, refusal⟩, ⟨.createSpan measured, refusal'⟩] ∧
          v.sink.createdSpans = s.sink.createdSpans ++ start :: during ∧
          u.sink.createdSpans = s.sink.createdSpans ++ start :: during ++
            (if refusal.isNone then [ended] else []) ++
              if refusal'.isNone then [measured] else [] := by
  have hOpen := opened_openStory (s := s) n storyId
  have hFirst := precedes_openStory n storyId s
  rcases hAnswer : n.openStory storyId s with ⟨e | o, t⟩
  all_goals simp only [Work.Yields, hAnswer] at hOpen hFirst
  case error => exact .inl ⟨e, t, hOpen.unbegun, fun work => generate_of_unopened hAnswer work⟩
  case ok =>
    obtain ⟨hName, hBegan, start, hBegun, hStart⟩ := hOpen.begun
    rw [hName] at hBegun
    refine .inr ⟨o.traceId, start, t, hBegun, fun hHandles a v hWork => ?_⟩
    -- the work may change the story and its metrics, but the root trace stays
    have hAdvances := (hHandles o.traceId).advances t
    have hDraws := (hHandles o.traceId).draws t
    rw [hWork] at hAdvances hDraws
    have hLater := hFirst.trans hDraws
    obtain ⟨c, hc, hRoot⟩ := Option.map_eq_some_iff.1 hBegun.known
    obtain ⟨d, hd, hSame⟩ := Option.map_eq_some_iff.1 (hAdvances.root c hc)
    obtain ⟨metrics, hClosed⟩ := closed_closeStory (s := v) n o
    obtain ⟨ended, measured, refusal, refusal', hEnded⟩ := hClosed.ended_of_known hd
    obtain rfl := hClosed.timed
    rw [hSame, hRoot] at hEnded
    obtain ⟨noted, hNoted⟩ := hAdvances.handed
    have hDuring := Watched.createdSpans_of_handovers hNoted.symm
    rw [hBegun.createdSpans, List.append_assoc, List.singleton_append] at hDuring
    refine ⟨(n.closeStory o v).2, _, _, _, _, ended, measured, refusal, refusal', ?result,
      hLater.laps, rfl, rfl, ?metrics, hEnded.state, ?ends, measuresStory_of_tells
        hEnded.tellsMetrics, hEnded.handed, hDuring, ?created⟩
    case result => rw [generate_of_opened hAnswer, hWork]
    case metrics =>
      have hStopped : v.supply.takeLap.1 = s.supply.stopwatch v.supply.laps :=
        congrFun hLater.stopwatch v.supply.laps
      rw [hBegan, hStopped]
      rfl
    case ends =>
      rw [← hName, hStart]
      exact endsStory_of_tells hEnded.tellsEnd
    case created => rw [hEnded.createdSpans, hDuring]

section

/-- A sink that accepts so many writes, and refuses everything after them. -/
structure Quota where
  left : Nat

instance : Sink Quota where
  name _ := "quota"
  send _ q :=
    match q.left with
    | 0 => (.error (.internal "nothing left"), q)
    | left + 1 => (.ok (), ⟨left⟩)
  flush q := (.ok (), q)
  pending _ := 0

/-- The stopwatch moves by a second and a half with every reading. -/
def rationed (writes : Nat) : Session Narration (Watched Quota) :=
  ⟨.start .default, .start ⟨writes⟩,
    (Supply.counting ⟨0, 0⟩).withStopwatch fun n => n * 1500000000⟩

def oneBeat (_ : String) : Work Narration (Watched Quota) Nat := do
  discard (patient.tell (.beat ⟨"b1", "It began.", 1, "setup", "generator", none, none, none⟩))
  return 7

theorem generation_brackets_work_rationed :
    (∃ e t, Unbegun (rationed 1) "s1" e t ∧ t.state.metrics.beats = 0 ∧
      patient.generate (some "s1") oneBeat (rationed 1) = (.error e, t)) ∧
    (∀ traceId, patient.Handles (oneBeat traceId)) ∧
    ∃ u root start beat ended, patient.generate (some "s1") oneBeat (rationed 4) = (.ok 7, u) ∧
      u.state.metrics.beats = 1 ∧
      u.state.metrics.totalMs =
        (Float.ofNat 1 + Float.ofNat 500000000 / 1000000000.0) * 1000.0 ∧
      u.sink.handovers.length = 5 ∧
      u.sink.createdSpans = [start, beat, ended] ∧
      start.StartsStory "s1" root ∧ ended.EndsStory "s1" root start.id u.state.metrics ∧
      [start, beat, ended].map (fun span => span.metadata.get? "event_type") =
        [some (.string "narrative.story.start"), some (.string "narrative.beat.created"),
          some (.string "narrative.story.end")] := by
  have hHandles : ∀ traceId, patient.Handles (oneBeat traceId) :=
    fun _ => .bind (.bind (.tell _) fun _ => .pure _) fun _ => .pure _
  refine ⟨?refused, hHandles, ?told⟩
  case refused =>
    rcases generation_brackets_work patient (some "s1") (rationed 1) with
      ⟨e, t, hUnbegun, hSame⟩ | ⟨root, start, t, -, hWork⟩
    · have hGenerate := hSame oneBeat
      have hBeats : (patient.generate (some "s1") oneBeat (rationed 1)).2.state.metrics.beats = 0 :=
        rfl
      rw [hGenerate] at hBeats
      exact ⟨e, t, hUnbegun, hBeats, hGenerate⟩
    · obtain ⟨u, _, _, _, _, _, _, _, _, hGenerate, -⟩ := hWork hHandles _ _ rfl
      have hError : (patient.generate (some "s1") oneBeat (rationed 1)).1.toOption = none := rfl
      rw [hGenerate] at hError
      cases hError
  case told =>
    rcases generation_brackets_work patient (some "s1") (rationed 4) with
      ⟨e, t, -, hSame⟩ | ⟨root, start, t, hBegun, hWork⟩
    · have hOk : (patient.generate (some "s1") oneBeat (rationed 4)).1.toOption = some 7 := rfl
      rw [hSame oneBeat] at hOk
      cases hOk
    · obtain ⟨u, _, _, metrics, during, ended, measured, refusal, refusal', hGenerate, -, -, -, -,
        hState, hEnds, -, hHanded, -, hCreated⟩ := hWork hHandles _ _ rfl
      have hSession : (patient.generate (some "s1") oneBeat (rationed 4)).2 = u := by rw [hGenerate]
      have hAnswers : u.sink.handovers.map (·.refusal.isNone) =
          [true, true, true] ++ [true, false] := hSession ▸ rfl
      have hKinds : u.sink.createdSpans.map (fun span => span.metadata.get? "event_type") =
          [some (.string "narrative.story.start"), some (.string "narrative.beat.created"),
            some (.string "narrative.story.end")] := hSession ▸ rfl
      rw [hHanded, List.map_append] at hAnswers
      obtain ⟨hEnded, hMeasured⟩ : refusal.isNone = true ∧ refusal'.isNone = false := by
        simpa using (List.append_inj' hAnswers rfl).2
      have hNone : (rationed 4).sink.createdSpans = [] := rfl
      rw [hEnded, hMeasured, hNone] at hCreated
      rw [hCreated] at hKinds
      obtain ⟨beat, rfl⟩ : ∃ beat, during = [beat] :=
        List.length_eq_one_iff.1 (by simpa using congrArg List.length hKinds)
      have hLast : u.state.metrics = metrics := by rw [hState]
      exact ⟨u, root, start, beat, ended, hGenerate, hSession ▸ rfl, hSession ▸ rfl,
        hSession ▸ rfl, hCreated, hBegun.starts, hLast ▸ hEnds, hKinds⟩

end

end Narrator

end StoryTrace
