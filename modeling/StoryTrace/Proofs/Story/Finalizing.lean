import StoryTrace.Proofs.Story.Tally

/-!
# Finalized stories

What a finalized story tells is what was opened for it since its root was created. Afterwards its
trace is unknown until a root is created for it again, and its spans are unknown for good.
-/

namespace StoryTrace.Orchestrator

variable {σ : Type} [Sink σ]

/-- Every call that names the trace is answered as if no root had been created for it. -/
structure UnknownTrace (s : Session StoryBoard (Watched σ)) (traceId : String) : Prop where
  absent : s.state.active.get? traceId = none
  opens : ∀ plan, openSpan traceId plan s = (.error (.unknownTrace traceId), s)
  links : ∀ externalId system, link traceId externalId system s = (false, s)
  injects : ∀ headers parentId, inject s.state headers (some traceId) parentId = none
  finalizes : ∀ content metrics,
    finalize traceId content metrics s = (.error (.unknownTrace traceId), s)

/-- Every call that names the span is answered as if it had not been opened. -/
structure UnknownSpan (s : Session StoryBoard (Watched σ)) (id : String) : Prop where
  absent : s.state.spans.get? id = none
  outputs : ∀ output, setOutput id output s = (.ok false, s)
  errors : ∀ message, setError id message s = (.ok false, s)

section

variable {s : Session StoryBoard (Watched σ)}

theorem unknownTrace_of_absent {traceId : String} (h : s.state.active.get? traceId = none) :
    UnknownTrace s traceId where
  absent := h
  opens plan := by
    rw [openSpan, Work.run_bind, Work.run_state, h]
    rfl
  links externalId system := by
    rw [link, Work.run_bind, Work.run_state, h]
    rfl
  injects headers parentId := by
    rw [inject, Option.bind_some, h]
    rfl
  finalizes content metrics := by
    rw [finalize, Work.run_bind, Work.run_state, h]
    rfl

theorem unknownSpan_of_absent {id : String} (h : s.state.spans.get? id = none) :
    UnknownSpan s id where
  absent := h
  outputs output := by
    rw [setOutput, Work.run_bind, Work.run_state, h]
    rfl
  errors message := by
    rw [setError, Work.run_bind, Work.run_state, h]
    rfl

end

omit [Sink σ] in
/-- The outcome of a story tells the number of its beats. -/
theorem field?_outcome_beatCount (content : Option String) (beatCount : Nat) (durationMs : Float)
    (metrics : Option StoryMetrics) :
    (outcome content beatCount durationMs metrics).field? "beat_count" =
      some (.ofNat beatCount) := by
  simp [outcome, Json.field?, Table.ofList, Table.merge]

section

variable {dealings : List Dealing} {s : Session StoryBoard (Watched σ)}
  (h : Tallies dealings s)
include h

omit [Sink σ] in
/-- The spans of an active story are those that were opened for it since its root was created. -/
theorem Tallies.spansOf_known {traceId : String} {story : ActiveStory}
    (known : s.state.active.get? traceId = some story) :
    ∃ root rest, BegunLast dealings traceId root rest ∧
      story.outline = { root.outline with spanIds := (openedFor traceId rest).map (·.id) } ∧
      (s.state.spansOf story).map StorySpan.label = (openedFor traceId rest).map Opened.label := by
  obtain ⟨root, rest, hBegun, hOutline⟩ := h.made traceId _ (StoryBoard.outline?_of_get? known)
  refine ⟨root, rest, hBegun, hOutline, StoryBoard.map_label_spansOf ?ids ?labels⟩
  case ids =>
    rw [List.map_map]
    exact congrArg StoryOutline.spanIds hOutline
  case labels =>
    refine List.forall_mem_map.2 fun x hx => ?_
    obtain ⟨hMem, -⟩ := hBegun.mem_openings hx []
    rw [List.append_nil] at hMem
    exact (h.labels _ _).2 ⟨_, hMem, (Option.some_ne_none _).symm, rfl, rfl⟩

omit [Sink σ] in
theorem Tallies.tracked_of_mem_spansOf {story : ActiveStory} {span : StorySpan}
    (hSpan : span ∈ s.state.spansOf story) : s.state.spans.get? span.id = some span := by
  obtain ⟨id, -, hTracked⟩ := List.mem_filterMap.1 hSpan
  rwa [h.id_of_tracked hTracked]

end

section

variable {before later : List Dealing} {d : Dealing} {s : Session StoryBoard (Watched σ)}
  {traceId : String} (h : Tallies (before ++ d :: later) s)
include h

/-- A span of a finalized story is tracked no more. -/
theorem Tallies.unknownSpan {story : ActiveStory} {rest : List Dealing}
    (hBegun : BegunLast before traceId story rest) (hEnds : d.ends? traceId = some .finalized)
    {x : Opened} (hx : x ∈ openedFor traceId rest) : UnknownSpan s x.id := by
  obtain ⟨hMem, -⟩ := hBegun.mem_openings hx (d :: later)
  rw [List.findSome?_cons_of_isSome (by rw [hEnds]; rfl), hEnds] at hMem
  apply unknownSpan_of_absent
  rw [StoryBoard.get?_spans_eq_none_iff, Option.eq_none_iff_forall_ne_some]
  intro l hLabel
  obtain ⟨e, he, hNot, -, hId⟩ := (h.labels _ _).1 hLabel
  rw [h.eq_of_id_eq he hMem hId] at hNot
  exact hNot rfl

/-- After its story was finalized a trace is active only if a root was created for it again. -/
theorem Tallies.unknownTrace (hBegun : d.begun? = none) (hEnds : d.ends? traceId ≠ none)
    (hNone : ∀ e ∈ later, ∀ story, e.begun? = some story → story.traceId ≠ traceId) :
    UnknownTrace s traceId := by
  apply unknownTrace_of_absent
  rw [StoryBoard.get?_active_eq_none_iff, Option.eq_none_iff_forall_ne_some]
  intro a hMade
  obtain ⟨story, rest, hLast, -⟩ := h.made traceId a hMade
  obtain ⟨e, he, hAgain⟩ := hLast.exists_mem_of_ends hBegun hEnds
  exact hNone e he story hAgain hLast.named

end

omit [Sink σ] in
theorem countBeats_eq_countP {spans : List StorySpan} {opened : List Opened}
    (h : spans.map StorySpan.label = opened.map Opened.label) :
    CompletedStory.countBeats spans = opened.countP (·.call.isBeat) :=
  calc CompletedStory.countBeats spans
    _ = (spans.map StorySpan.label).countP (·.kind == .beatCreated) := by
      rw [List.countP_map]
      rfl
    _ = (opened.map Opened.label).countP (·.kind == .beatCreated) := by rw [h]
    _ = opened.countP (·.call.isBeat) := by
      rw [List.countP_map]
      exact List.countP_congr fun x _ => by
        simp [Opened.label, SpanCall.kind_plan_beq_beatCreated]

/-- A story that is finalized lists the spans that were opened for it since its root was created,
each as it was tracked last, and counts the beats among them as the trace does. From then on its
spans are unknown, and so is its trace until a root is created for it. -/
theorem finalized_lists_spans_since_root (o : Orchestrator) (sink : σ) {supply : Supply}
    (hFresh : supply.Fresh) {calls : List Call} {dealings : List Dealing}
    {s s' : Session StoryBoard (Watched σ)}
    (hRun : o.dealAll calls (session sink supply) = (dealings, s)) {traceId : String}
    {content : Option String} {metrics : Option StoryMetrics} {c : CompletedStory}
    (hFinal : finalize traceId content metrics s = (.ok c, s')) :
    (∃ root rest, BegunLast dealings traceId root rest ∧ c.traceId = traceId ∧
      c.storyId = root.storyId ∧ c.sessionId = root.sessionId ∧
      c.spans.map (·.id) = (openedFor traceId rest).map (·.id) ∧
      c.beatCount = (openedFor traceId rest).countP (·.call.isBeat)) ∧
    (c.spans.map (·.id)).Nodup ∧
    (∀ span ∈ c.spans, s.state.spans.get? span.id = some span) ∧
    (∃ output, s'.sink.handovers = s.sink.handovers ++
        [⟨.updateTrace ⟨traceId, some output, []⟩, none⟩] ∧
      output.field? "beat_count" = some (.ofNat c.beatCount)) ∧
    ∀ more, (∀ span ∈ c.spans, UnknownSpan (o.dealAll more s').2 span.id) ∧
      ((∀ d ∈ (o.dealAll more s').1, ∀ story, d.begun? = some story → story.traceId ≠ traceId) →
        UnknownTrace (o.dealAll more s').2 traceId) := by
  have hTallies := tallies_of_dealAll hFresh hRun
  have hServed := served_finalize o traceId content metrics (s := s)
  rw [Work.Yields, hFinal] at hServed
  have hAfter (more : List Call) : Tallies (dealings ++ ⟨.finalize traceId content metrics,
      .completed (.ok c)⟩ :: (o.dealAll more s').1) (o.dealAll more s').2 := by
    have hFirst := hServed.tallies (c := .finalize traceId content metrics) hTallies
    have hLater := hFirst.dealAll o more
    rwa [List.append_assoc] at hLater
  have hEnds : (Dealing.mk (.finalize traceId content metrics) (.completed (.ok c))).ends? traceId =
      some .finalized :=
    (Dealing.ends?_of_finalized rfl rfl).trans (if_pos rfl)
  cases hServed with
  | @finalized _ _ _ story now output _ _ known hOutput uses =>
      obtain ⟨root, rest, hBegun, hOutline, hLabels⟩ := hTallies.spansOf_known known
      have hIds : (s.state.spansOf story).map (·.id) =
          (openedFor traceId rest).map (·.id) := by
        have hBoth := congrArg (List.map SpanLabel.id) hLabels
        rwa [List.map_map, List.map_map] at hBoth
      refine ⟨⟨root, rest, hBegun, hTallies.traceId_of_known known,
        congrArg StoryOutline.storyId hOutline, congrArg StoryOutline.sessionId hOutline, hIds,
        countBeats_eq_countP hLabels⟩, ?nodup, fun span hSpan => ?tracked, ⟨output, rfl, ?told⟩,
        fun more => ⟨fun span hSpan => ?spans, fun hNone => ?trace⟩⟩
      case nodup =>
        show ((s.state.spansOf story).map (·.id)).Nodup
        rw [hIds.trans (congrArg StoryOutline.spanIds hOutline).symm]
        exact hTallies.nodup_spanIds known
      case tracked => exact hTallies.tracked_of_mem_spansOf hSpan
      case told =>
        rw [hOutput]
        exact field?_outcome_beatCount ..
      case spans =>
        have hMem : span.id ∈ (openedFor traceId rest).map (·.id) :=
          hIds ▸ List.mem_map_of_mem hSpan
        obtain ⟨x, hx, hId⟩ := List.mem_map.1 hMem
        exact hId ▸ (hAfter more).unknownSpan hBegun hEnds hx
      case trace =>
        exact (hAfter more).unknownTrace rfl (hEnds ▸ Option.some_ne_none _) hNone

/-- A story is begun twice for one trace while another one is made, over a store that refuses the
first span. -/
def interleavedStories : List Dealing × Session StoryBoard (Watched Gate) :=
  dealAll ⟨none, "story"⟩
    [.createRoot "dusk" none (some "t1") [],
      .openSpan "t1" (.analysis "emotional" none none none),
      .openSpan "t1" (.analysis "thematic" none none none),
      .createRoot "noon" none (some "t2") [], .createRoot "dawn" (some "evening") (some "t1") [],
      .openSpan "t1" (.flow "arc" "local" none none none),
      .openSpan "t2" (.enrichment "beat-1" "dialogue" [] none),
      .openSpan "t1" (.beat ⟨"beat-1", "It began.", 1, "setup", "generator", none, none, none⟩)]
    (session (Gate.start.refuse .createSpan 1) (.counting ⟨0, 0⟩))

theorem finalized_lists_spans_since_root_interleavedStories :
    (Supply.counting ⟨0, 0⟩).Fresh ∧
    ∃ c s', finalize "t1" none none interleavedStories.2 = (.ok c, s') ∧
      c.spans.map (·.id.length) = [8, 10] ∧ c.beatCount = 1 ∧ c.storyId = "dawn" ∧
      UnknownTrace s' "t1" ∧ ∀ span ∈ c.spans, UnknownSpan s' span.id := by
  have hFresh := Supply.fresh_counting ⟨0, 0⟩
  have hTold : ((finalize "t1" none none interleavedStories.2).1.map fun c =>
      (c.spans.map (·.id.length), c.beatCount, c.storyId)) = .ok ([8, 10], 1, "dawn") := by
    decide +kernel
  refine ⟨hFresh, ?_⟩
  cases hFinal : finalize "t1" none none interleavedStories.2 with
  | mk answer s' =>
      rw [hFinal] at hTold
      cases answer with
      | error e => cases hTold
      | ok c =>
          obtain ⟨hSpans, hRest⟩ := Prod.mk.inj (Except.ok.inj hTold)
          obtain ⟨hBeats, hStory⟩ := Prod.mk.inj hRest
          obtain ⟨-, -, -, -, hAfter⟩ := finalized_lists_spans_since_root ⟨none, "story"⟩
            (Gate.start.refuse .createSpan 1) hFresh (Prod.eta interleavedStories).symm hFinal
          obtain ⟨hUnknown, hTrace⟩ := hAfter []
          exact ⟨c, s', rfl, hSpans, hBeats, hStory, hTrace (List.forall_mem_nil _), hUnknown⟩

end StoryTrace.Orchestrator
