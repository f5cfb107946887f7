import StoryTrace.Proofs.Store.Arrivals

/-!
# Logs of events

What one event of a log says: it is about a trace, it creates a span, or it brings a closure. A
replayed log is a sequence of arrivals, in which every closure ends its span and traces stand in the
order of the first events about them.
-/

namespace StoryTrace

namespace Event

/-- What the event says about a trace, if its kind and its body fit. -/
def traceBody? (e : Event) : Option TraceBody :=
  match e.kind, e.body with
  | .traceCreate, .trace b => some b
  | _, _ => none

end Event

namespace Store

variable {s : Store}

theorem traces_replayEvent_of_none (now : Instant) {e : Event} (h : e.traceBody? = none) :
    (s.replayEvent now e).traces = s.traces := by
  obtain ⟨id, time, kind, body⟩ := e
  cases body with
  | trace b =>
      cases kind with
      | traceCreate => cases h
      | spanCreate | spanUpdate | generationCreate | generationUpdate => rfl
  | span b =>
      cases kind with
      | traceCreate => rfl
      | spanCreate | generationCreate => exact traces_insertSpan ..
      | spanUpdate | generationUpdate => exact traces_closeSpan ..

theorem replayEvent_of_traceBody (now : Instant) {e : Event} {b : TraceBody}
    (h : e.traceBody? = some b) : s.replayEvent now e = s.replayTrace now b := by
  obtain ⟨id, time, kind, body⟩ := e
  cases body with
  | span b => cases kind <;> cases h
  | trace body =>
      cases kind with
      | traceCreate => exact congrArg (s.replayTrace now) (Option.some.inj h)
      | spanCreate | spanUpdate | generationCreate | generationUpdate => cases h

theorem replay_append_singleton (now : Instant) (events : List Event) (e : Event) :
    replay now (events ++ [e]) = (replay now events).replayEvent now e := by
  simp [replay]

/-- Replayed events are arrivals. -/
theorem replay_eq_arriveAll (now : Instant) (events : List Event) :
    replay now events = empty.arriveAll (events.map fun e => .event e now) := by
  rw [arriveAll, List.foldl_map]
  rfl

theorem indexed_replay (now : Instant) (events : List Event) : (replay now events).Indexed := by
  rw [replay_eq_arriveAll]
  exact indexed_arriveAll _

theorem map_id_traces_replay (now : Instant) (events : List Event) :
    (replay now events).traces.map (·.id) =
      ((events.filterMap Event.traceBody?).map (·.id)).eraseDups := by
  have hId (e : Event) : (Arrival.event e now).traceId? = e.traceBody?.map (·.id) := by
    obtain ⟨id, time, kind, body⟩ := e
    cases kind <;> cases body <;> rfl
  rw [replay_eq_arriveAll, traceIds_arriveAll, List.filterMap_map, List.map_filterMap]
  exact congrArg List.eraseDups (List.filterMap_congr fun e _ => hId e)

theorem Arrival.ends_event (e : Event) (now : Instant) : (Arrival.event e now).Ends := by
  have hBody (b : SpanBody) (type : SpanType) : (b.toClosure type now).status ≠ .running := by
    simp only [SpanBody.toClosure, SpanBody.status]
    split <;> simp
  intro c hCloses
  obtain ⟨id, time, kind, body⟩ := e
  cases body with
  | trace b => cases kind <;> cases hCloses
  | span b =>
      cases kind with
      | traceCreate | spanCreate | generationCreate => cases hCloses
      | spanUpdate | generationUpdate =>
          obtain rfl := Option.some.inj hCloses
          exact hBody b _

end Store

end StoryTrace
