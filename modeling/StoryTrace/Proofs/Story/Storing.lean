import StoryTrace.Proofs.Story.Matching

/-!
# Dealings over a store

All that a dealing does to the tracked spans and to a store that accepts everything, with the trace
that is created for a root.
-/

namespace StoryTrace

namespace Supply

/-- The second supply is the first one after more readings of the same clock. -/
structure Ticks (s t : Supply) : Prop where
  clock : t.clock = s.clock
  readings : s.readings ≤ t.readings

end Supply

namespace Store

variable {s : Store}

theorem id_of_trace? {id : String} {t : Trace} (h : s.trace? id = some t) : t.id = id := by
  rw [trace?] at h
  simpa using List.find?_some h

/-- The first trace with an id stays. -/
theorem trace?_receive_createTrace (t : Trace) (id : String) :
    (s.receive (.createTrace t)).trace? id =
      (s.trace? id).or (if t.id = id then some t else none) := by
  have hTraces : (s.receive (.createTrace t)).trace? id = (s.insertTrace t).trace? id := rfl
  rw [hTraces, insertTrace]
  split
  case isTrue hHas =>
    cases hTrace : s.trace? id with
    | some old => rfl
    | none =>
        obtain ⟨old, hOld, hId⟩ := List.any_eq_true.1 hHas
        have hOther := List.find?_eq_none.1 hTrace old hOld
        have hApart : t.id ≠ id := by
          rintro rfl
          exact hOther hId
        rw [if_neg hApart, Option.or_none]
  case isFalse =>
    rw [trace?, List.find?_append, ← trace?]
    by_cases hId : t.id = id <;> simp [hId]

theorem trace?_insertSpan (span : Span) (id : String) :
    (s.insertSpan span).trace? id = s.trace? id := by
  rw [trace?, traces_insertSpan, ← trace?]

theorem trace?_closeSpan (c : Closure) (id : String) :
    (s.closeSpan c).trace? id = s.trace? id := by
  rw [trace?, traces_closeSpan, ← trace?]

theorem trace?_reviseTrace (id : String) (output : Option Json) (metadata : Metadata)
    (other : String) : (s.reviseTrace id output metadata).trace? other =
      (s.trace? other).map fun t => if t.id = id then t.revise output metadata else t := by
  have hSame : ((fun t : Trace => t.id == other) ∘ fun t =>
      if t.id = id then t.revise output metadata else t) = fun t => t.id == other := by
    funext t
    by_cases hId : t.id = id <;> simp [hId, Trace.revise]
  simp only [trace?, reviseTrace, List.find?_map, hSame]

end Store

namespace Orchestrator

open StorySpan

/-! ## Roots -/

/-- A story that was begun, with what the caller says about its trace. -/
structure Root where
  story : ActiveStory
  metadata : Metadata

namespace Dealing

/-- The root that was created, if one was. -/
def root? (d : Dealing) : Option Root :=
  match d.response, d.call with
  | .root (.ok story), .createRoot _ _ _ metadata => some ⟨story, metadata⟩
  | _, _ => none

end Dealing

/-- The roots that were created for the trace. -/
def rootsOf (traceId : String) (dealings : List Dealing) : List Root :=
  (dealings.filterMap Dealing.root?).filter (·.story.traceId = traceId)

/-- The trace tells the story that was begun with the root. -/
structure Root.Told (root : Root) (t : Trace) : Prop where
  id : t.id = root.story.traceId
  sessionId : t.sessionId = some root.story.sessionId
  storyId : root.metadata.get? "story_id" = none →
    textOf? t.metadata "story_id" = some root.story.storyId

/-- The trace that is created for a root. -/
def Root.trace (root : Root) (created : Instant) (createdAt : String) : Trace :=
  let t := rootTrace root.story.traceId root.story.storyId (some root.story.sessionId) created
    createdAt
  { t with metadata := t.metadata.merge root.metadata }

theorem Root.told_trace (root : Root) (created : Instant) (createdAt : String) :
    root.Told (root.trace created createdAt) where
  id := rfl
  sessionId := rfl
  storyId h := by
    rw [textOf?, trace, Table.get?_merge_of_get?_eq_none h]
    simp [rootTrace, Table.ofList, Table.merge, Json.string?]

theorem Root.Told.revise {root : Root} {t : Trace} (h : root.Told t) (output : Option Json) :
    root.Told (t.revise output []) :=
  ⟨h.id, h.sessionId, h.storyId⟩

/-! ## Dealings over a store -/

/-- All that a dealing does to the tracked spans and to a store that accepts everything. -/
inductive Stored (s : Session StoryBoard (Watched Store)) :
    Dealing → Session StoryBoard (Watched Store) → Prop where
  | quiet {d : Dealing} {s' : Session StoryBoard (Watched Store)} (noRoot : d.root? = none)
      (hOpened : d.opened? = none)
      (unknown : ∀ id, d.call.request.revises? = some id → s.state.spans.get? id = none)
      (spans : s'.state.spans = s.state.spans) (store : s'.sink.sink = s.sink.sink)
      (supply : s'.supply = s.supply) : Stored s d s'
  | begun (root : Root) {storyId : String} {sessionId given : Option String} {created : Instant}
      {createdAt : String} {s' : Session StoryBoard (Watched Store)}
      (spans : s'.state.spans = s.state.spans)
      (store : s'.sink.sink = s.sink.sink.receive (.createTrace (root.trace created createdAt)))
      (ticks : s.supply.Ticks s'.supply) :
      Stored s ⟨.createRoot storyId sessionId given root.metadata, .root (.ok root.story)⟩ s'
  | opened {traceId : String} {call : SpanCall} {story : ActiveStory} {id : String}
      {kept : StorySpan} {started ended first last : Instant}
      {s' : Session StoryBoard (Watched Store)}
      (known : s.state.active.get? traceId = some story)
      (new : id = s.supply.ids s.supply.idsUsed)
      (now : started = s.supply.clock s.supply.readings)
      (hKept : kept = call.plan.storySpan story id first last)
      (spans : s'.state.spans = s.state.spans.put kept.id kept)
      (store : s'.sink.sink = s.sink.sink.insertSpan (call.plan.span story id started ended))
      (ticks : s.supply.Ticks s'.supply) :
      Stored s ⟨.openSpan traceId call, .span (.ok id)⟩ s'
  | ended (closure : Closure) {c : Call} {known changed : StorySpan}
      {s' : Session StoryBoard (Watched Store)}
      (hRevises : c.request.revises? = some closure.spanId)
      (hKnown : s.state.spans.get? closure.spanId = some known) (isOpen : known.endTime = none)
      (hEnds : Ends known c changed closure)
      (spans : s'.state.spans = s.state.spans.put changed.id changed)
      (store : s'.sink.sink = s.sink.sink.closeSpan closure)
      (ticks : s.supply.Ticks s'.supply) : Stored s ⟨c, .done (.ok true)⟩ s'
  | revised {c : Call} {id : String} {known changed : StorySpan}
      {s' : Session StoryBoard (Watched Store)} (hRevises : c.request.revises? = some id)
      (hKnown : s.state.spans.get? id = some known) (isEnded : known.endTime ≠ none)
      (matter : changed.SameMatter known) (ends : changed.endTime ≠ none)
      (spans : s'.state.spans = s.state.spans.put changed.id changed)
      (store : s'.sink.sink = s.sink.sink) (ticks : s.supply.Ticks s'.supply) :
      Stored s ⟨c, .done (.ok true)⟩ s'
  | finalized {traceId : String} {content : Option String} {metrics : Option StoryMetrics}
      {completed : CompletedStory} {story : ActiveStory} {output : Json} {flushes : Nat}
      {s' : Session StoryBoard (Watched Store)}
      (spans : s'.state.spans = story.spanIds.foldl Table.erase s.state.spans)
      (store : s'.sink.sink =
        { s.sink.sink.reviseTrace traceId (some output) [] with flushes })
      (ticks : s.supply.Ticks s'.supply) :
      Stored s ⟨.finalize traceId content metrics, .completed (.ok completed)⟩ s'

section

open Work

variable {s : Session StoryBoard (Watched Store)}

/-- A watched store accepts every write. -/
theorem yields_send_accepted {τ : Type} {t : τ} {watched : Watched Store} {supply : Supply}
    {w : Write} {goal : Except SinkError Unit → Session τ (Watched Store) → Prop}
    (h : goal (.ok ()) ⟨t, watched.note (watched.sink.receive w) [⟨w, none⟩], supply⟩) :
    (send w).Yields ⟨t, watched, supply⟩ goal := h

theorem yields_flush_accepted {τ : Type} {t : τ} {watched : Watched Store} {supply : Supply}
    {goal : Except SinkError Unit → Session τ (Watched Store) → Prop}
    (h : goal (.ok ()) ⟨t, watched.note
      { watched.sink with flushes := watched.sink.flushes + 1 } [], supply⟩) :
    flush.Yields ⟨t, watched, supply⟩ goal := h

theorem stored_createRoot (o : Orchestrator) (storyId : String)
    (sessionId traceId : Option String) (metadata : Metadata) :
    (o.createRoot storyId sessionId traceId metadata).Yields s fun answer t =>
      Stored s ⟨.createRoot storyId sessionId traceId metadata, .root answer⟩ t := by
  refine .bind (yields_newId (.bind (yields_newId (.bind (yields_now (.bind (yields_now
    (.bind (yields_now (.bind (yields_send_accepted ?_)))))))))))
  exact .bind (yields_change (yields_pure
    (.begun ⟨_, metadata⟩ rfl rfl ⟨rfl, Nat.le_add_right _ 3⟩)))

theorem stored_openSpan (traceId : String) (call : SpanCall) :
    (openSpan traceId call.plan).Yields s fun answer t =>
      Stored s ⟨.openSpan traceId call, .span answer⟩ t := by
  refine .bind (yields_state ?_)
  split
  case h_1 unknown => exact yields_pure (.quiet rfl rfl (fun _ h => nomatch h) rfl rfl rfl)
  case h_2 story known =>
    refine .bind (yields_newId (.bind (yields_now (.bind (yields_now (.bind (yields_now
      (.bind (yields_now (.bind (yields_send_accepted ?_)))))))))))
    exact .bind (yields_change (yields_pure
      (.opened known rfl rfl rfl rfl rfl ⟨rfl, Nat.le_add_right _ 4⟩)))

theorem stored_setOutput (spanId : String) (output : Json) :
    (setOutput spanId output).Yields s fun answer t =>
      Stored s ⟨.setOutput spanId output, .done answer⟩ t := by
  refine .bind (yields_state ?_)
  split
  case h_1 unknown =>
    refine yields_pure (.quiet rfl rfl ?_ rfl rfl rfl)
    rintro _ ⟨⟩
    exact unknown
  case h_2 known hKnown =>
    extract_lets given
    have hMatter : given.SameMatter known := by
      cases output <;> constructor <;> rfl
    have hRest : given.endTime = known.endTime ∧ given.success = known.success ∧
        given.error = known.error := by
      cases output <;> exact ⟨rfl, rfl, rfl⟩
    have hOutput (hNone : known.output = []) : given.output = objectOf output := by
      cases output with
      | object members => rfl
      | _ => exact hNone
    obtain ⟨hEnd, hSuccess, hError⟩ := hRest
    split
    case h_1 time hEnded =>
      have hEnds : known.endTime ≠ none := hEnded ▸ Option.some_ne_none time
      exact .bind (yields_change (yields_pure (.revised rfl hKnown hEnds hMatter (hEnd ▸ hEnds)
        rfl rfl ⟨rfl, Nat.le_refl _⟩)))
    case h_2 hOpen =>
      have hFinish (now : Instant) : (given.finish now).SameMatter given := by
        constructor <;> rfl
      refine .bind (yields_now (.bind (yields_change (.bind (yields_now
        (.bind (yields_send_accepted (yields_pure ?_))))))))
      exact .ended (.succeeded spanId known.traceId (some output) _) rfl hKnown hOpen
        (.succeeds ((hFinish _).trans hMatter) (Option.some_ne_none _) hSuccess hError hOutput) rfl
        rfl ⟨rfl, Nat.le_add_right _ 2⟩

theorem stored_setError (spanId message : String) :
    (setError spanId message).Yields s fun answer t =>
      Stored s ⟨.setError spanId message, .done answer⟩ t := by
  refine .bind (yields_state ?_)
  split
  case h_1 unknown =>
    refine yields_pure (.quiet rfl rfl ?_ rfl rfl rfl)
    rintro _ ⟨⟩
    exact unknown
  case h_2 known hKnown =>
    have hMatter (now : Instant) : (known.fail message now).SameMatter known := by
      constructor <;> rfl
    refine .bind (yields_now (.bind (yields_change ?_)))
    split
    case h_1 time hEnded =>
      exact yields_pure (.revised rfl hKnown (hEnded ▸ Option.some_ne_none time) (hMatter _)
        (Option.some_ne_none _) rfl rfl ⟨rfl, Nat.le_succ _⟩)
    case h_2 hOpen =>
      refine .bind (yields_now (.bind (yields_send_accepted (yields_pure ?_))))
      exact .ended (.failed spanId known.traceId message none _) rfl hKnown hOpen
        (.fails (hMatter _) (Option.some_ne_none _) rfl rfl) rfl rfl ⟨rfl, Nat.le_add_right _ 2⟩

theorem stored_link (traceId externalId system : String) :
    (link traceId externalId system).Yields s fun answer t =>
      Stored s ⟨.link traceId externalId system, .linked answer⟩ t := by
  have hNone (id : String) : (Call.link traceId externalId system).request.revises? = some id →
      s.state.spans.get? id = none := nofun
  refine .bind (yields_state ?_)
  split
  case h_1 unknown => exact yields_pure (.quiet rfl rfl hNone rfl rfl rfl)
  case h_2 story known =>
    exact .bind (yields_change (yields_pure (.quiet rfl rfl hNone rfl rfl rfl)))

theorem stored_finalize (traceId : String) (content : Option String)
    (metrics : Option StoryMetrics) :
    (finalize traceId content metrics).Yields s fun answer t =>
      Stored s ⟨.finalize traceId content metrics, .completed answer⟩ t := by
  refine .bind (yields_state ?_)
  split
  case h_1 unknown => exact yields_pure (.quiet rfl rfl (fun _ h => nomatch h) rfl rfl rfl)
  case h_2 story known =>
    refine .bind (yields_now (.bind (yields_send_accepted (.bind (yields_put (.bind (.discard
      (yields_flush_accepted (yields_pure ?_)))))))))
    exact .finalized rfl rfl ⟨rfl, Nat.le_succ _⟩

/-- Every call changes the tracked spans and the store in one of these ways. -/
theorem stored_respond (o : Orchestrator) (c : Call) (s : Session StoryBoard (Watched Store)) :
    Stored s ⟨c, (o.respond c.request s).1⟩ (o.respond c.request s).2 := by
  cases c with
  | createRoot storyId sessionId traceId metadata =>
      exact stored_createRoot o storyId sessionId traceId metadata
  | openSpan traceId call => exact stored_openSpan traceId call
  | setOutput spanId output => exact stored_setOutput spanId output
  | setError spanId message => exact stored_setError spanId message
  | link traceId externalId system => exact stored_link traceId externalId system
  | finalize traceId content metrics => exact stored_finalize traceId content metrics

end

end Orchestrator

end StoryTrace
