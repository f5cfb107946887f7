import StoryTrace.Event.Codec
import StoryTrace.Proofs.Store.Log
import StoryTrace.Proofs.Store.Upsert

/-!
# Replaying a log twice

What a log says of a span is its last creation and what follows it, and what it says of a trace is
the last value for each of its parts. A log that is replayed a second time says all of this again,
so the second time changes no record, although single events do.
-/

namespace StoryTrace

namespace Trace

/-- The trace after one more event about it. -/
def absorb (t : Trace) (b : TraceBody) : Trace := t.revise b.output (b.metadata.getD [])

@[simp] theorem id_absorb (t : Trace) (b : TraceBody) : (t.absorb b).id = t.id := rfl

theorem id_foldl_absorb (t : Trace) (bodies : List TraceBody) :
    (bodies.foldl absorb t).id = t.id := by
  induction bodies generalizing t with
  | nil => rfl
  | cons b rest ih => exact ih (t.absorb b)

/-- Two revisions in a row come to one. -/
theorem revise_revise {t : Trace} (h : t.metadata.Sorted) {first second : Metadata}
    (hFirst : first.Sorted) (hSecond : second.Sorted) (output other : Option Json) :
    (t.revise output first).revise other second =
      t.revise (other.orElse fun _ => output) (first.merge second) := by
  simp only [revise, Table.merge_merge h hFirst hSecond, mk.injEq, true_and]
  cases other <;> rfl

theorem revise_revise_self {t : Trace} (h : t.metadata.Sorted) {metadata : Metadata}
    (hMore : metadata.Sorted) (output : Option Json) :
    (t.revise output metadata).revise output metadata = t.revise output metadata := by
  simp only [revise, Table.merge_merge_self h hMore, mk.injEq, true_and]
  cases output <;> rfl

/-- Events about a trace come to one revision of it. -/
theorem exists_revision {bodies : List TraceBody}
    (hOrdered : ∀ b ∈ bodies, (b.metadata.getD []).Sorted) :
    ∃ (output : Option Json) (metadata : Metadata), metadata.Sorted ∧
      ∀ t : Trace, t.metadata.Sorted → bodies.foldl absorb t = t.revise output metadata := by
  induction bodies with
  | nil => exact ⟨none, [], List.Pairwise.nil, fun _ _ => rfl⟩
  | cons b rest ih =>
      obtain ⟨hHere, hRest⟩ := List.forall_mem_cons.1 hOrdered
      obtain ⟨output, metadata, hSorted, hFold⟩ := ih hRest
      refine ⟨output.orElse fun _ => b.output, (b.metadata.getD []).merge metadata,
        hHere.merge metadata, fun t ht => ?_⟩
      rw [List.foldl_cons, hFold _ (ht.merge _)]
      exact revise_revise ht hHere hSorted b.output output

/-- What was absorbed once is absorbed again without a change. -/
theorem foldl_absorb_again {bodies : List TraceBody}
    (hOrdered : ∀ b ∈ bodies, (b.metadata.getD []).Sorted) {t : Trace} (h : t.metadata.Sorted) :
    bodies.foldl absorb (bodies.foldl absorb t) = bodies.foldl absorb t := by
  obtain ⟨output, metadata, hSorted, hFold⟩ := exists_revision hOrdered
  rw [hFold t h, hFold _ (h.merge metadata)]
  exact revise_revise_self h hSorted output

end Trace

/-- A trace with the metadata and the output still to come. -/
def TraceBody.bare (b : TraceBody) (now : Instant) : Trace :=
  { b.toTrace now with metadata := [], output := none }

theorem TraceBody.absorb_bare {b : TraceBody} (h : (b.metadata.getD []).Sorted) (now : Instant) :
    (b.bare now).absorb b = b.toTrace now := by
  have hMetadata : Table.merge [] (b.metadata.getD []) = b.metadata.getD [] :=
    Table.ofList_of_sorted h
  have hOutput : (b.output.orElse fun _ => none) = b.output := by cases b.output <;> rfl
  simp only [Trace.absorb, Trace.revise, bare, toTrace, hMetadata, hOutput]

namespace Event

/-- The metadata of a trace are a table: its keys are in order and none is repeated. -/
def Ordered (e : Event) : Prop := ∀ b, e.traceBody? = some b → (b.metadata.getD []).Sorted

/-- What the events say about one trace. -/
def bodiesOf (id : String) (events : List Event) : List TraceBody :=
  (events.filterMap traceBody?).filter (·.id = id)

theorem bodiesOf_append_singleton (id : String) (events : List Event) (e : Event) :
    bodiesOf id (events ++ [e]) = bodiesOf id events ++ bodiesOf id [e] := by
  simp [bodiesOf]

theorem bodiesOf_singleton_of_none {e : Event} (h : e.traceBody? = none) (id : String) :
    bodiesOf id [e] = [] := by
  simp [bodiesOf, h]

theorem bodiesOf_singleton {e : Event} {b : TraceBody} (h : e.traceBody? = some b) (id : String) :
    bodiesOf id [e] = if b.id = id then [b] else [] := by
  by_cases hId : b.id = id <;> simp [bodiesOf, h, hId]

theorem ordered_bodiesOf {events : List Event} (h : ∀ e ∈ events, e.Ordered) (id : String) :
    ∀ b ∈ bodiesOf id events, (b.metadata.getD []).Sorted := by
  intro b hb
  obtain ⟨e, he, hBody⟩ := List.mem_filterMap.1 (List.mem_filter.1 hb).1
  exact h e he b hBody

end Event

/-! ## Events that were read -/

theorem Json.sorted_of_metadata? {v : Json} {m : Metadata} (h : v.metadata? = some m) :
    m.Sorted := by
  cases v with
  | object members =>
      obtain rfl := Option.some.inj h
      exact Table.sorted_ofList _
  | null | bool | number | string | array => cases h

/-- A value that is there was read from somewhere. -/
theorem Json.Layout.exists_of_optional {α : Type} {l : Layout} {index : Nat} {key : String}
    {read : Json → Option α} {x : α} (h : l.optional index key read = some (some x)) :
    ∃ v, read v = some x := by
  obtain ⟨slot, -, hSlot⟩ := Option.bind_eq_some_iff.1 h
  cases slot with
  | none => cases hSlot
  | some v =>
      refine ⟨v, ?_⟩
      cases hNull : v.isNull with
      | true => simp [hNull] at hSlot
      | false => simpa [hNull] using hSlot

theorem TraceBody.sorted_of_ofJson? {v : Json} {b : TraceBody} (h : ofJson? v = some b) :
    (b.metadata.getD []).Sorted := by
  simp only [ofJson?, Option.bind_eq_bind, Option.bind_eq_some_iff] at h
  obtain ⟨l, -, id, -, name, -, sessionId, -, metadata, hMetadata, output, -, timestamp, -,
    hBody⟩ := h
  obtain rfl := Option.some.inj hBody
  cases metadata with
  | none => exact List.Pairwise.nil
  | some m =>
      obtain ⟨w, hw⟩ := Json.Layout.exists_of_optional hMetadata
      exact Json.sorted_of_metadata? hw

/-- Every event that is read from a log has its metadata in order. -/
theorem Event.ordered_of_ofLine? {s : String} {e : Event} (h : ofLine? s = some e) :
    e.Ordered := by
  obtain ⟨v, -, hRead⟩ := Option.bind_eq_some_iff.1 h
  simp only [ofJson?, Option.bind_eq_bind, Option.bind_eq_some_iff] at hRead
  obtain ⟨l, -, id, -, time, -, kind, -, body, hBody, hEvent⟩ := hRead
  obtain rfl := Option.some.inj hEvent
  intro b hb
  have hTrace : body = .trace b := by
    cases body with
    | span body => cases kind <;> cases hb
    | trace body =>
        cases kind with
        | traceCreate => exact congrArg EventBody.trace (Option.some.inj hb)
        | spanCreate | spanUpdate | generationCreate | generationUpdate => cases hb
  obtain ⟨slot, -, hSlot⟩ := Option.bind_eq_some_iff.1 hBody
  obtain ⟨w, -, hRead⟩ := Option.bind_eq_some_iff.1 hSlot
  rw [hTrace] at hRead
  unfold EventBody.ofJson? at hRead
  split at hRead
  · cases hRead
  · obtain ⟨other, hOther, hSame⟩ := Option.map_eq_some_iff.1 hRead
    exact EventBody.trace.inj hSame ▸ TraceBody.sorted_of_ofJson? hOther

namespace Store

variable {s : Store}

/-! ## Traces -/

theorem hasTrace_replay_iff (now : Instant) (events : List Event) (id : String) :
    (replay now events).hasTrace id = true ↔ Event.bodiesOf id events ≠ [] := by
  have hMem : (replay now events).hasTrace id = true ↔
      id ∈ (replay now events).traces.map (·.id) := by
    simp [hasTrace]
  rw [hMem, map_id_traces_replay, List.mem_eraseDups, List.mem_map, Event.bodiesOf, ne_eq,
    List.filter_eq_nil_iff]
  simp only [decide_eq_true_eq, not_forall, not_not, exists_prop]

/-- A trace after an event about a trace is another one, the one that is revised, or a new one. -/
theorem mem_traces_replayTrace {now : Instant} {b : TraceBody} {t : Trace}
    (h : t ∈ (s.replayTrace now b).traces) :
    (t ∈ s.traces ∧ t.id ≠ b.id) ∨ (∃ old ∈ s.traces, old.id = b.id ∧ t = old.absorb b) ∨
      (s.hasTrace b.id = false ∧ t = b.toTrace now) := by
  cases hKnown : s.hasTrace b.id with
  | true =>
      rw [traces_replayTrace_of_known hKnown, reviseTrace, List.mem_map] at h
      obtain ⟨old, hOld, rfl⟩ := h
      by_cases hId : old.id = b.id
      · rw [if_pos hId]
        exact .inr (.inl ⟨old, hOld, hId, rfl⟩)
      · rw [if_neg hId]
        exact .inl ⟨hOld, hId⟩
  | false =>
      rw [traces_replayTrace_of_unknown hKnown, List.mem_append, List.mem_singleton] at h
      rcases h with hOld | hNew
      · exact .inl ⟨hOld, hasTrace_eq_false_iff.1 hKnown t hOld⟩
      · exact .inr (.inr ⟨rfl, hNew⟩)

/-- A replayed trace is what all events about it make of a trace with nothing in it. -/
theorem traces_replay (now : Instant) {events : List Event} (h : ∀ e ∈ events, e.Ordered) :
    ∀ t ∈ (replay now events).traces, ∃ bare : Trace, bare.metadata = [] ∧
      t = (Event.bodiesOf t.id events).foldl Trace.absorb bare := by
  induction events using List.reverseRecOn with
  | nil => intro t ht; cases ht
  | append_singleton before e ih =>
      obtain ⟨hBefore, hLast⟩ := List.forall_mem_append.1 h
      have hLast := List.forall_mem_singleton.1 hLast
      have ih := ih hBefore
      intro t ht
      rw [replay_append_singleton] at ht
      rw [Event.bodiesOf_append_singleton]
      cases hBody : e.traceBody? with
      | none =>
          rw [traces_replayEvent_of_none now hBody] at ht
          rw [Event.bodiesOf_singleton_of_none hBody, List.append_nil]
          exact ih t ht
      | some b =>
          rw [replayEvent_of_traceBody now hBody] at ht
          rw [Event.bodiesOf_singleton hBody]
          obtain ⟨hOld, hOther⟩ | ⟨old, hOld, hId, rfl⟩ | ⟨hUnknown, rfl⟩ :=
            mem_traces_replayTrace ht
          · rw [if_neg (Ne.symm hOther), List.append_nil]
            exact ih t hOld
          · obtain ⟨bare, hBare, hFold⟩ := ih old hOld
            refine ⟨bare, hBare, ?_⟩
            rw [Trace.id_absorb, if_pos hId.symm, List.foldl_append, ← hFold]
            rfl
          · have hNone : Event.bodiesOf b.id before = [] := by
              by_contra hSome
              rw [(hasTrace_replay_iff now before b.id).2 hSome] at hUnknown
              cases hUnknown
            refine ⟨b.bare now, rfl, ?_⟩
            change b.toTrace now = List.foldl Trace.absorb (b.bare now)
              (Event.bodiesOf b.id before ++ if b.id = b.id then [b] else [])
            rw [hNone, if_pos rfl]
            exact (TraceBody.absorb_bare (hLast b hBody) now).symm

/-- Events about traces that are all there only revise them. -/
theorem traces_foldl_replayEvent (now : Instant) {events : List Event}
    (h : ∀ e ∈ events, ∀ b, e.traceBody? = some b → s.hasTrace b.id = true) :
    (events.foldl (replayEvent now) s).traces =
      s.traces.map fun t => (Event.bodiesOf t.id events).foldl Trace.absorb t := by
  induction events using List.reverseRecOn with
  | nil => exact (List.map_id s.traces).symm
  | append_singleton before e ih =>
      obtain ⟨hBefore, hLast⟩ := List.forall_mem_append.1 h
      have ih := ih hBefore
      rw [List.foldl_append, List.foldl_cons, List.foldl_nil]
      cases hBody : e.traceBody? with
      | none =>
          rw [traces_replayEvent_of_none now hBody, ih]
          simp only [Event.bodiesOf_append_singleton, Event.bodiesOf_singleton_of_none hBody,
            List.append_nil]
      | some b =>
          have hKnown : (before.foldl (replayEvent now) s).hasTrace b.id = true := by
            have hThere := hLast e (List.mem_singleton_self e) b hBody
            simp only [hasTrace, List.any_eq_true, ih, List.mem_map] at hThere ⊢
            obtain ⟨t, ht, hId⟩ := hThere
            exact ⟨_, ⟨t, ht, rfl⟩, by rw [Trace.id_foldl_absorb]; exact hId⟩
          rw [replayEvent_of_traceBody now hBody, traces_replayTrace_of_known hKnown, reviseTrace,
            ih, List.map_map]
          apply List.map_congr_left
          intro t _
          rw [Function.comp_apply, Trace.id_foldl_absorb, Event.bodiesOf_append_singleton,
            Event.bodiesOf_singleton hBody, List.foldl_append]
          by_cases hId : t.id = b.id
          · rw [if_pos hId, if_pos hId.symm]
            rfl
          · rw [if_neg hId, if_neg (Ne.symm hId)]
            rfl

theorem traces_replay_twice (now : Instant) {events : List Event} (h : ∀ e ∈ events, e.Ordered) :
    (replay now (events ++ events)).traces = (replay now events).traces := by
  have hKnown : ∀ e ∈ events, ∀ b, e.traceBody? = some b →
      (replay now events).hasTrace b.id = true := by
    intro e he b hBody
    rw [hasTrace_replay_iff]
    apply List.ne_nil_of_mem (a := b)
    exact List.mem_filter.2 ⟨List.mem_filterMap.2 ⟨e, he, hBody⟩, by simp⟩
  have hSecond : replay now (events ++ events) =
      events.foldl (replayEvent now) (replay now events) := List.foldl_append
  rw [hSecond, traces_foldl_replayEvent now hKnown, map_eq_self_iff]
  intro t ht
  obtain ⟨bare, hBare, hFold⟩ := traces_replay now h t ht
  have hSorted : bare.metadata.Sorted := hBare ▸ List.Pairwise.nil
  have hAgain := Trace.foldl_absorb_again (Event.ordered_bodiesOf h t.id) hSorted
  rwa [← hFold] at hAgain

/-! ## Spans -/

/-- Stores with the same ids in order and the same look-ups have the same spans. -/
theorem Indexed.spans_eq {a b : Store} (ha : a.Indexed) (hb : b.Indexed)
    (hIds : a.spans.map (·.id) = b.spans.map (·.id)) (hSame : ∀ id, a.span? id = b.span? id) :
    a.spans = b.spans := by
  apply List.ext_getElem?
  intro place
  have hPlace : (a.spans[place]?).map (·.id) = (b.spans[place]?).map (·.id) := by
    rw [← List.getElem?_map, hIds, List.getElem?_map]
  cases hSpan : a.spans[place]? with
  | none =>
      rw [hSpan, Option.map_none] at hPlace
      exact (Option.map_eq_none_iff.1 hPlace.symm).symm
  | some span =>
      rw [hSpan, Option.map_some] at hPlace
      obtain ⟨other, hOther, hId⟩ := Option.map_eq_some_iff.1 hPlace.symm
      have hFound : a.span? span.id = some span :=
        ha.span?_eq_some_iff.2 ⟨List.mem_of_getElem? hSpan, rfl⟩
      rw [hSame, hb.span?_eq_some_iff.2 ⟨List.mem_of_getElem? hOther, hId⟩] at hFound
      rw [hOther, hFound]

theorem LastCreation.append_left {arrivals after : List Arrival} {span : Span}
    (h : LastCreation arrivals span after) (before : List Arrival) :
    LastCreation (before ++ arrivals) span after := by
  obtain ⟨earlier, a, rfl, hCreates, hLast⟩ := h
  exact ⟨before ++ earlier, a, (List.append_assoc ..).symm, hCreates, hLast⟩

theorem spans_arriveAll_twice {arrivals : List Arrival} (h : ∀ a ∈ arrivals, a.Ends) :
    (empty.arriveAll (arrivals ++ arrivals)).spans = (empty.arriveAll arrivals).spans := by
  have hTwice : ∀ a ∈ arrivals ++ arrivals, a.Ends := List.forall_mem_append.2 ⟨h, h⟩
  refine (indexed_arriveAll _).spans_eq (indexed_arriveAll _) ?ids fun id => ?same
  case ids =>
    have hRemoved (ids : List String) : ids.removeAll ids = [] := by simp [List.removeAll]
    rw [spanIds_arriveAll, spanIds_arriveAll, List.filterMap_append, List.map_append,
      List.eraseDups_append, hRemoved, List.eraseDups_nil, List.append_nil]
  case same =>
    by_cases hCreated : ∃ a ∈ arrivals, a.Creates id
    · obtain ⟨span, after, hLast, rfl⟩ := exists_lastCreation hCreated
      rw [span?_of_lastCreation h hLast,
        span?_of_lastCreation hTwice (hLast.append_left arrivals)]
    · have hNone : ∀ a ∈ arrivals, ¬ a.Creates id := fun a ha hIt => hCreated ⟨a, ha, hIt⟩
      rw [span?_eq_none_of_not_created hNone,
        span?_eq_none_of_not_created (List.forall_mem_append.2 ⟨hNone, hNone⟩)]

theorem spans_replay_twice (now : Instant) (events : List Event) :
    (replay now (events ++ events)).spans = (replay now events).spans := by
  rw [replay_eq_arriveAll, replay_eq_arriveAll, List.map_append]
  refine spans_arriveAll_twice ?_
  intro a ha
  obtain ⟨e, -, rfl⟩ := List.mem_map.1 ha
  exact Arrival.ends_event e now

/-- A log that is replayed twice makes the traces and the spans that it makes when it is replayed
once, all of them with the same contents and at the same places. -/
theorem replay_twice_same_records (now : Instant) {events : List Event}
    (hOrdered : ∀ e ∈ events, e.Ordered) :
    (replay now (events ++ events)).traces = (replay now events).traces ∧
      (replay now (events ++ events)).spans = (replay now events).spans :=
  ⟨traces_replay_twice now hOrdered, spans_replay_twice now events⟩

/-- A closure that comes before its span, an output before its trace, and a span that is closed and
then created again. -/
def reopenedLog : List Event :=
  [.ofClosure (.succeeded "s1" "t1" (some (.string "early")) ⟨0, 0⟩) "e1" ⟨0, 0⟩,
    .ofUpdate ⟨"t1", some (.string "draft"), [("mood", .string "calm")]⟩ "e2" ⟨0, 0⟩,
    .ofSpan (.new "s1" "t1" "search" ⟨1, 0⟩) "e3" ⟨1, 0⟩,
    .ofClosure (.failed "s1" "t1" "out of time" none ⟨2, 0⟩) "e4" ⟨2, 0⟩,
    .ofTrace ((Trace.new "t1" "story" ⟨0, 0⟩).withMetadata "mood" (.string "tense")) "e5" ⟨2, 0⟩,
    .ofSpan (.new "s1" "t1" "search again" ⟨3, 0⟩) "e6" ⟨3, 0⟩]

theorem ordered_reopenedLog : ∀ e ∈ reopenedLog, e.Ordered := by
  have hTable (key : String) (v : Json) : Table.Sorted [(key, v)] := List.pairwise_singleton ..
  simp only [reopenedLog, List.forall_mem_cons]
  refine ⟨?early, ?draft, ?span, ?failure, ?trace, ?again, List.forall_mem_nil _⟩
  case early | span | failure | again => exact nofun
  case draft | trace =>
    intro b hBody
    obtain rfl := Option.some.inj hBody
    exact hTable "mood" _

theorem replay_twice_same_records_reopenedLog :
    (∀ e ∈ reopenedLog, e.Ordered) ∧
    (replay ⟨9, 0⟩ (reopenedLog ++ reopenedLog)).traces.map (·.name) = [""] ∧
    (replay ⟨9, 0⟩ (reopenedLog ++ reopenedLog)).spans.map (·.isOpen) = [true] ∧
    (replay ⟨9, 0⟩ (reopenedLog ++ reopenedLog.take 4)).spans.map (·.isOpen) = [false] := by
  obtain ⟨hTraces, hSpans⟩ := replay_twice_same_records ⟨9, 0⟩ ordered_reopenedLog
  refine ⟨ordered_reopenedLog, ?_, ?_, by decide +kernel⟩
  · rw [hTraces]
    decide +kernel
  · rw [hSpans]
    decide +kernel

end Store

end StoryTrace
