import StoryTrace.Proofs.Store.Log
import StoryTrace.Proofs.Store.Upsert

/-!
# Logs of one trace

The events of a log that are about one trace rebuild the records of that trace, in the same order
and with the same contents, if all events about one span agree on its trace.
-/

namespace StoryTrace

namespace SpanBody

@[simp] theorem id_toSpan (b : SpanBody) (type : SpanType) (now : Instant) :
    (b.toSpan type now).id = b.id := by
  unfold toSpan
  cases b.endTime <;> rfl

@[simp] theorem traceId_toSpan (b : SpanBody) (type : SpanType) (now : Instant) :
    (b.toSpan type now).traceId = b.traceId := by
  unfold toSpan
  cases b.endTime <;> rfl

end SpanBody

namespace Event

/-- The trace that the event is about. -/
def traceId (e : Event) : String :=
  match e.body with
  | .trace b => b.id
  | .span b => b.traceId

def isAbout (traceId : String) (e : Event) : Bool := e.traceId == traceId

/-- What the event says about a span, if its kind and its body fit. -/
def spanBody? (e : Event) : Option SpanBody :=
  match e.kind.spanType?, e.body with
  | some _, .span b => some b
  | _, _ => none

/-- All that is said about one span names the same trace. -/
def Agreeing (events : List Event) : Prop :=
  ∀ a ∈ events.filterMap spanBody?, ∀ b ∈ events.filterMap spanBody?,
    a.id = b.id → a.traceId = b.traceId

instance (events : List Event) : Decidable (Agreeing events) :=
  inferInstanceAs (Decidable (∀ a ∈ events.filterMap spanBody?,
    ∀ b ∈ events.filterMap spanBody?, a.id = b.id → a.traceId = b.traceId))

/-- The traces that events create, in the order of the first creations. -/
def createdTraces (events : List Event) : List String :=
  ((events.filterMap traceBody?).map (·.id)).eraseDups

theorem traceId_of_traceBody {e : Event} {b : TraceBody} (h : e.traceBody? = some b) :
    e.traceId = b.id := by
  obtain ⟨id, time, kind, body⟩ := e
  cases body with
  | trace body =>
      cases kind with
      | traceCreate => exact congrArg TraceBody.id (Option.some.inj h)
      | spanCreate | spanUpdate | generationCreate | generationUpdate => cases h
  | span body => cases kind <;> cases h

theorem traceId_of_spanBody {e : Event} {b : SpanBody} (h : e.spanBody? = some b) :
    e.traceId = b.traceId := by
  obtain ⟨id, time, kind, body⟩ := e
  cases body with
  | trace body => cases kind <;> cases h
  | span body =>
      cases kind with
      | traceCreate => cases h
      | spanCreate | spanUpdate | generationCreate | generationUpdate =>
          exact congrArg SpanBody.traceId (Option.some.inj h)

theorem Agreeing.of_append {first more : List Event} (h : Agreeing (first ++ more)) :
    Agreeing first := by
  intro a ha b hb
  rw [Agreeing, List.filterMap_append] at h
  exact h a (List.mem_append_left _ ha) b (List.mem_append_left _ hb)

end Event

namespace Store

variable {s : Store} {events : List Event}

/-- The store rebuilt from the events about one trace. -/
def replayAbout (now : Instant) (traceId : String) (events : List Event) : Store :=
  replay now (events.filter (·.isAbout traceId))

theorem replayAbout_append_singleton (now : Instant) (traceId : String) (before : List Event)
    (e : Event) :
    replayAbout now traceId (before ++ [e]) =
      if e.traceId = traceId then (replayAbout now traceId before).replayEvent now e
      else replayAbout now traceId before := by
  by_cases h : e.traceId = traceId
  · have hAbout : e.isAbout traceId = true := beq_iff_eq.2 h
    rw [if_pos h, replayAbout, List.filter_append, List.filter_cons_of_pos hAbout,
      List.filter_nil, replay_append_singleton]
    rfl
  · have hAbout : ¬ e.isAbout traceId = true := fun hEq => h (beq_iff_eq.1 hEq)
    rw [if_neg h, replayAbout, List.filter_append, List.filter_cons_of_neg hAbout,
      List.filter_nil, List.append_nil]
    rfl

/-! ## Traces -/

theorem filter_traces_reviseTrace (id traceId : String) (output : Option Json)
    (metadata : Metadata) :
    (s.reviseTrace id output metadata).traces.filter (·.id == traceId) =
      (s.traces.filter (·.id == traceId)).map
        fun t => if t.id = id then t.revise output metadata else t := by
  rw [reviseTrace, List.filter_map]
  congr 1
  apply List.filter_congr
  intro t _
  simp only [Function.comp_apply]
  split <;> rfl

theorem filter_traces_replayTrace_of_ne {traceId : String} {b : TraceBody} (now : Instant)
    (h : b.id ≠ traceId) :
    (s.replayTrace now b).traces.filter (·.id == traceId) =
      s.traces.filter (·.id == traceId) := by
  cases hKnown : s.hasTrace b.id with
  | true =>
      rw [traces_replayTrace_of_known hKnown, filter_traces_reviseTrace, map_eq_self_iff]
      intro t ht
      rw [List.mem_filter, beq_iff_eq] at ht
      exact if_neg fun hId => h (hId.symm.trans ht.2)
  | false =>
      have hNew : ((b.toTrace now).id == traceId) = false := beq_eq_false_iff_ne.2 h
      simp [traces_replayTrace_of_unknown hKnown, hNew]

theorem filter_traces_replayTrace {s' : Store} {b : TraceBody} (now : Instant)
    (h : s'.traces = s.traces.filter (·.id == b.id)) :
    (s.replayTrace now b).traces.filter (·.id == b.id) = (s'.replayTrace now b).traces := by
  have hHas : s'.hasTrace b.id = s.hasTrace b.id := by
    simp only [hasTrace, h, List.any_filter, Bool.and_self]
  cases hKnown : s.hasTrace b.id with
  | true =>
      rw [traces_replayTrace_of_known hKnown, traces_replayTrace_of_known (hHas.trans hKnown),
        filter_traces_reviseTrace, ← h]
      rfl
  | false =>
      have hNew : ((b.toTrace now).id == b.id) = true := beq_self_eq_true _
      simp [traces_replayTrace_of_unknown hKnown,
        traces_replayTrace_of_unknown (hHas.trans hKnown), h, hNew]

/-- The events about a trace rebuild it, and no other trace. -/
theorem traces_replayAbout (now : Instant) (traceId : String) (events : List Event) :
    (replayAbout now traceId events).traces =
      (replay now events).traces.filter (·.id == traceId) := by
  induction events using List.reverseRecOn with
  | nil => rfl
  | append_singleton before e ih =>
      rw [replayAbout_append_singleton, replay_append_singleton]
      cases hBody : e.traceBody? with
      | none =>
          rw [traces_replayEvent_of_none now hBody, ← ih]
          split
          · exact traces_replayEvent_of_none now hBody
          · rfl
      | some b =>
          rw [replayEvent_of_traceBody now hBody, replayEvent_of_traceBody now hBody,
            Event.traceId_of_traceBody hBody]
          split
          · subst traceId
            exact (filter_traces_replayTrace now ih).symm
          · rw [filter_traces_replayTrace_of_ne now ‹_›, ih]

/-! ## Spans -/

/-- The spans of the store with the given id are of the given trace. -/
def Places (s : Store) (id traceId : String) : Prop :=
  ∀ span ∈ s.spans, span.id = id → span.traceId = traceId

/-- A span that takes the place of an old one is in the trace of the old one. -/
theorem Places.filter_replaced {span : Span} (h : s.Places span.id span.traceId)
    (traceId : String) :
    s.spans.filter ((·.traceId == traceId) ∘ fun x => if x.id = span.id then span else x) =
      s.spansOf traceId := by
  apply List.filter_congr
  intro x hx
  rw [Function.comp_apply]
  split
  · rw [h x hx ‹_›]
  · rfl

theorem spansOf_insertSpan_of_ne (hIndexed : s.Indexed) {span : Span} {traceId : String}
    (hPlaces : s.Places span.id span.traceId) (h : span.traceId ≠ traceId) :
    (s.insertSpan span).spansOf traceId = s.spansOf traceId := by
  by_cases hKnown : ∃ old ∈ s.spans, old.id = span.id
  · obtain ⟨old, hOld, hId⟩ := hKnown
    rw [spansOf, hIndexed.spans_insertSpan_of_mem hOld hId, List.filter_map,
      hPlaces.filter_replaced, List.map_congr_left (g := id), List.map_id]
    intro x hx
    rw [spansOf, List.mem_filter, beq_iff_eq] at hx
    exact if_neg fun hSame => h ((hPlaces x hx.1 hSame).symm.trans hx.2)
  · have hNew : ∀ old ∈ s.spans, old.id ≠ span.id := fun old hOld hId => hKnown ⟨old, hOld, hId⟩
    have hOther : (span.traceId == traceId) = false := beq_eq_false_iff_ne.2 h
    rw [spansOf, hIndexed.spans_insertSpan_of_new hNew]
    simp [hOther, spansOf]

theorem spansOf_insertSpan {s' : Store} (hIndexed : s.Indexed) (hIndexed' : s'.Indexed)
    {span : Span} (hPlaces : s.Places span.id span.traceId)
    (h : s'.spans = s.spansOf span.traceId) :
    (s.insertSpan span).spansOf span.traceId = (s'.insertSpan span).spans := by
  by_cases hKnown : ∃ old ∈ s.spans, old.id = span.id
  · obtain ⟨old, hOld, hId⟩ := hKnown
    have hOld' : old ∈ s'.spans := by
      rw [h, spansOf, List.mem_filter, beq_iff_eq]
      exact ⟨hOld, hPlaces old hOld hId⟩
    rw [hIndexed'.spans_insertSpan_of_mem hOld' hId, h, spansOf,
      hIndexed.spans_insertSpan_of_mem hOld hId, List.filter_map, hPlaces.filter_replaced]
  · have hNew : ∀ old ∈ s.spans, old.id ≠ span.id := fun old hOld hId => hKnown ⟨old, hOld, hId⟩
    have hNew' : ∀ old ∈ s'.spans, old.id ≠ span.id := by
      intro old hOld
      rw [h] at hOld
      exact hNew old (List.mem_filter.1 hOld).1
    rw [spansOf, hIndexed.spans_insertSpan_of_new hNew, hIndexed'.spans_insertSpan_of_new hNew', h]
    simp [spansOf]

theorem spansOf_closeSpan (hIndexed : s.Indexed) (c : Closure) (traceId : String) :
    (s.closeSpan c).spansOf traceId = (s.spansOf traceId).map (·.close c) := by
  rw [spansOf, hIndexed.spans_closeSpan, List.filter_map]
  simp only [Function.comp_def, Span.traceId_close, spansOf]

theorem spansOf_closeSpan_of_ne (hIndexed : s.Indexed) {c : Closure} {traceId : String}
    (hPlaces : s.Places c.spanId c.traceId) (h : c.traceId ≠ traceId) :
    (s.closeSpan c).spansOf traceId = s.spansOf traceId := by
  rw [spansOf_closeSpan hIndexed, List.map_congr_left (g := id), List.map_id]
  intro span hSpan
  rw [spansOf, List.mem_filter, beq_iff_eq] at hSpan
  exact Span.close_of_ne fun hId => h ((hPlaces span hSpan.1 hId.symm).symm.trans hSpan.2)

/-- All that an event can do to the spans of a store. -/
theorem replayEvent_cases (now : Instant) (e : Event) :
    (∃ b type, e.spanBody? = some b ∧
      ∀ s : Store, s.replayEvent now e = s.insertSpan (b.toSpan type now)) ∨
    (∃ b type, e.spanBody? = some b ∧
      ∀ s : Store, s.replayEvent now e = s.closeSpan (b.toClosure type now)) ∨
    (∀ s : Store, (s.replayEvent now e).spans = s.spans) := by
  obtain ⟨id, time, kind, body⟩ := e
  cases body with
  | trace b =>
      refine .inr (.inr fun s => ?_)
      cases kind with
      | traceCreate => exact ((SameSpans.refl s).replayTrace now b).spans
      | spanCreate | spanUpdate | generationCreate | generationUpdate => rfl
  | span b =>
      cases kind with
      | traceCreate => exact .inr (.inr fun s => rfl)
      | spanCreate => exact .inl ⟨b, .span, rfl, fun s => rfl⟩
      | generationCreate => exact .inl ⟨b, .generation, rfl, fun s => rfl⟩
      | spanUpdate => exact .inr (.inl ⟨b, .span, rfl, fun s => rfl⟩)
      | generationUpdate => exact .inr (.inl ⟨b, .generation, rfl, fun s => rfl⟩)

/-- A replayed span is one that an event names, in the trace that the event names. -/
theorem exists_spanBody_of_mem_replay (now : Instant) {span : Span}
    (h : span ∈ (replay now events).spans) :
    ∃ b ∈ events.filterMap Event.spanBody?, b.id = span.id ∧ b.traceId = span.traceId := by
  induction events using List.reverseRecOn generalizing span with
  | nil => cases h
  | append_singleton before e ih =>
      have hIndexed := indexed_replay now before
      have hBefore {old : Span} (hOld : old ∈ (replay now before).spans) :
          ∃ b ∈ (before ++ [e]).filterMap Event.spanBody?,
            b.id = old.id ∧ b.traceId = old.traceId := by
        obtain ⟨b, hb, hSame⟩ := ih hOld
        rw [List.filterMap_append]
        exact ⟨b, List.mem_append_left _ hb, hSame⟩
      rw [replay_append_singleton] at h
      obtain ⟨b, type, hBody, hStep⟩ | ⟨b, type, -, hStep⟩ | hStep := replayEvent_cases now e
      · have hHere : b ∈ (before ++ [e]).filterMap Event.spanBody? := by simp [hBody]
        rw [hStep] at h
        rcases mem_spans_insertSpan h with hOld | rfl
        · exact hBefore hOld
        · exact ⟨b, hHere, by simp⟩
      · rw [hStep, hIndexed.spans_closeSpan, List.mem_map] at h
        obtain ⟨old, hOld, rfl⟩ := h
        simpa using hBefore hOld
      · rw [hStep] at h
        exact hBefore h

theorem places_replay (now : Instant) {before : List Event} {e : Event} {b : SpanBody}
    (hAgreeing : Event.Agreeing (before ++ [e])) (hBody : e.spanBody? = some b) :
    (replay now before).Places b.id b.traceId := by
  intro span hSpan hId
  obtain ⟨a, ha, hIds, hTraces⟩ := exists_spanBody_of_mem_replay now hSpan
  rw [← hTraces]
  apply hAgreeing a _ b _ (hIds.trans hId)
  · rw [List.filterMap_append]
    exact List.mem_append_left _ ha
  · simp [hBody]

/-- The events about a trace rebuild its spans, and no span of another trace. -/
theorem spans_replayAbout (now : Instant) (traceId : String) (hAgreeing : Event.Agreeing events) :
    (replayAbout now traceId events).spans = (replay now events).spansOf traceId := by
  induction events using List.reverseRecOn with
  | nil => rfl
  | append_singleton before e ih =>
      have hBefore := ih hAgreeing.of_append
      have hIndexed := indexed_replay now before
      have hAbout : (replayAbout now traceId before).Indexed := indexed_replay now _
      rw [replayAbout_append_singleton, replay_append_singleton]
      obtain ⟨b, type, hBody, hStep⟩ | ⟨b, type, hBody, hStep⟩ | hStep := replayEvent_cases now e
      · have hPlaces : (replay now before).Places (b.toSpan type now).id
            (b.toSpan type now).traceId := by
          simpa using places_replay now hAgreeing hBody
        rw [hStep, hStep, Event.traceId_of_spanBody hBody, ← b.traceId_toSpan type now]
        split
        · subst traceId
          exact (spansOf_insertSpan hIndexed hAbout hPlaces hBefore).symm
        · rw [spansOf_insertSpan_of_ne hIndexed hPlaces ‹_›, hBefore]
      · have hPlaces : (replay now before).Places (b.toClosure type now).spanId
            (b.toClosure type now).traceId := places_replay now hAgreeing hBody
        rw [hStep, hStep, Event.traceId_of_spanBody hBody]
        split
        · rw [hAbout.spans_closeSpan, hBefore, spansOf_closeSpan hIndexed]
        · rw [spansOf_closeSpan_of_ne hIndexed hPlaces ‹_›, hBefore]
      · rw [spansOf, hStep]
        split
        · rw [hStep, hBefore, spansOf]
        · exact hBefore

end Store

end StoryTrace
