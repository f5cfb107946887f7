import StoryTrace.Proofs.Event.Payload
import StoryTrace.Proofs.Event.Wire
import StoryTrace.Proofs.Record.Senders
import StoryTrace.Proofs.Sink.Watched
import StoryTrace.Proofs.Store.Log
import StoryTrace.Proofs.Story.Recorded
import StoryTrace.Proofs.Time.Rfc3339

/-!
# Story events on the wire

The span of an event is sent as an ingestion event, written on a line, read and replayed. What is
rebuilt tells the story event again, as long as its values survive on a line.
-/

namespace StoryTrace

theorem Instant.Dated.portable {t : Instant} (h : t.Dated) : t.Portable := Rfc3339.read?_text h

/-- A record without a null output is written and read without a loss. -/
theorem Event.ofLine?_line_ofWrite {w : Write} (h : w.Portable) (hSame : w.withoutNullOutput = w)
    (id : String) {time : Instant} (hTime : time.Portable) :
    ofLine? (ofWrite w id time).line = some (ofWrite w id time) := by
  have hTimestamp : (ofWrite w id time).timestamp.Portable := by cases w <;> exact hTime
  rw [ofLine?_line hTimestamp (portable_body_ofWrite h id time), withoutNulls_ofWrite, hSame]

namespace StoryEvent

/-- The values of the event survive on a line. -/
structure Portable (e : StoryEvent) : Prop where
  input : (Json.object e.input).Portable
  output : ∀ m ∈ e.output, (Json.object m).Portable
  metadata : (Json.object e.metadata).Portable

/-- The span tells the event: what it is about and what came of it, and all metadata of the event
besides. -/
structure ToldBy (e : StoryEvent) (storyId : String) (s : StorySpan) : Prop where
  kind : s.kind = e.kind
  storyId : s.storyId = storyId
  beatId : s.beatId = e.beatId
  characterIds : s.characterIds = e.characterIds
  emotionalTone : s.emotionalTone = e.emotionalTone
  leadUniverse : s.leadUniverse = e.leadUniverse
  input : s.input = e.input
  output : s.output = e.output.getD []
  parentId : s.parentId = e.parentId
  succeeded : s.success = true ∧ s.error = none
  metadata : ∀ key, key ∉ reservedKeys → s.metadata.get? key = e.metadata.get? key

theorem get?_about_of_not_reserved (e : StoryEvent) (storyId : String) {key : String}
    (h : key ∉ reservedKeys) : (e.about storyId).get? key = none := by
  apply Table.get?_merge_of_forall_ne
  rintro entry hEntry rfl
  apply h
  simp only [List.mem_cons, List.not_mem_nil, or_false] at hEntry
  rcases hEntry with rfl | rfl | rfl | rfl | rfl | rfl <;> simp [reservedKeys]

theorem toldBy_storySpan {e : StoryEvent} (hSorted : e.metadata.Sorted)
    (storyId id traceId : String) (started ended : Instant) :
    e.ToldBy storyId (e.storySpan storyId id traceId started ended) where
  kind := rfl
  storyId := rfl
  beatId := rfl
  characterIds := rfl
  emotionalTone := rfl
  leadUniverse := rfl
  input := rfl
  output := rfl
  parentId := rfl
  succeeded := ⟨rfl, rfl⟩
  metadata key hKey := by
    show ((e.about storyId).merge e.metadata).get? key = e.metadata.get? key
    rw [Table.get?_merge hSorted, e.get?_about_of_not_reserved storyId hKey, Option.or_none]

/-- A tone alone is part of the name of a story span, and not of the name of the record. -/
theorem displayName_storySpan {e : StoryEvent}
    (h : e.beatId ≠ none ∨ e.leadUniverse ≠ none ∨ e.emotionalTone = none)
    (storyId id traceId : String) (started ended : Instant) :
    (e.storySpan storyId id traceId started ended).displayName = e.spanName := by
  have hContext : (e.beatId.orElse fun _ => e.leadUniverse.orElse fun _ => e.emotionalTone) =
      e.beatId.orElse fun _ => e.leadUniverse := by
    cases hBeat : e.beatId with
    | some beat => rfl
    | none =>
        cases hUniverse : e.leadUniverse with
        | some lead => rfl
        | none => simpa [hBeat, hUniverse] using h
  exact congrArg e.kind.nameWith hContext

theorem portable_about (e : StoryEvent) (storyId : String) :
    (Json.object (e.about storyId)).Portable := by
  apply Json.portable_ofList
  simp only [List.forall_mem_cons]
  exact ⟨Json.portableMember_string _, Json.portableMember_string _,
    Json.portableMember_ofOption_string _, Json.portableMember_ofStrings _,
    Json.portableMember_ofOption_string _, Json.portableMember_ofOption_string _,
    List.forall_mem_nil _⟩

theorem Portable.spanOf {e : StoryEvent} (h : e.Portable) (storyId id traceId : String)
    {started ended : Instant} (hStarted : started.Portable) (hEnded : ended.Portable) :
    (Narrator.spanOf e storyId id traceId started ended).Portable where
  input := h.input
  output v hv := by
    obtain ⟨m, hm, rfl⟩ := Option.map_eq_some_iff.1 hv
    exact h.output m hm
  metadata := (e.portable_about storyId).merge h.metadata
  startedAt := hStarted
  endedAt t ht := Option.mem_some_iff.1 ht ▸ hEnded
  usage := nofun

end StoryEvent

namespace Narrator

variable {σ : Type} [Sink σ]

section

open Work

variable {s : Session Narration (Watched σ)}

/-- The root trace is there afterwards, and the story is the same. -/
theorem yields_ensureRoot_watched (n : Narrator) :
    n.ensureRoot.Yields s fun answer t => t.state.storyId = s.state.storyId ∧
      t.supply.clock = s.supply.clock ∧ ∀ traceId, answer = .ok traceId →
        t.state.correlation.map (·.rootTraceId) = some traceId := by
  refine .bind (yields_state ?_)
  split
  case h_1 c hRoot =>
    refine yields_pure ⟨rfl, rfl, ?_⟩
    rintro _ ⟨⟩
    rw [hRoot]
    rfl
  case h_2 =>
    refine .bind (yields_state (.bind (yields_newId (.bind (yields_now (.bind (yields_now
      (.bind (yields_send ?accepted ?refused)))))))))
    case accepted =>
      intro sink
      refine .bind (yields_now (.bind (yields_put (yields_pure ⟨rfl, rfl, ?_⟩))))
      rintro _ ⟨⟩
      rfl
    case refused =>
      intro e sink
      refine yields_pure ⟨rfl, rfl, ?_⟩
      rintro _ ⟨⟩

/-- An event that is recorded is handed over as its span, with two readings of the clock. -/
theorem yields_record (n : Narrator) (e : StoryEvent) :
    (n.record e).Yields s fun answer t => ∀ id, answer = .ok id →
      ∃ traceId i j, t.state.correlation.map (·.rootTraceId) = some traceId ∧
        t.sink.handovers.getLast? = some ⟨.createSpan (spanOf e s.state.storyId id traceId
          (s.supply.clock i) (s.supply.clock j)), none⟩ := by
  refine .bind ((yields_ensureRoot_watched n).mono ?_)
  rintro answer ⟨state, sink, supply⟩ ⟨hStory, hClock, hRoot⟩
  split
  case h_1 error =>
    refine yields_pure ?_
    rintro _ ⟨⟩
  case h_2 traceId =>
    refine .bind (yields_newId (.bind (yields_now (.bind (yields_state (.bind (yields_now
      (.bind (yields_send ?accepted ?refused)))))))))
    case accepted =>
      intro later
      refine yields_pure ?_
      rintro _ ⟨⟩
      refine ⟨traceId, supply.readings, supply.readings + 1, hRoot traceId rfl, ?_⟩
      rw [Watched.note, List.getLast?_concat, ← hStory, ← hClock]
      rfl
    case refused =>
      intro error later
      refine yields_pure ?_
      rintro _ ⟨⟩

end

/-- The span of an event has no null output. -/
theorem withoutNullOutput_spanOf (e : StoryEvent) (storyId id traceId : String)
    (started ended : Instant) :
    (Write.createSpan (spanOf e storyId id traceId started ended)).withoutNullOutput =
      .createSpan (spanOf e storyId id traceId started ended) := by
  have hOutput : Json.nonNull? (e.output.map Json.object) = e.output.map Json.object := by
    cases e.output <;> rfl
  simp only [Write.withoutNullOutput, spanOf, Span.finished, hOutput]

/-- Replaying the ingestion event of an event's span puts the span there again. -/
theorem span?_replay_spanOf (e : StoryEvent) (storyId id traceId : String)
    (started ended : Instant) (eventId : String) (time now : Instant) (before : List Event) :
    (Store.replay now (before ++ [Event.ofWrite (.createSpan (spanOf e storyId id traceId started
      ended)) eventId time])).span? id = some (spanOf e storyId id traceId started ended) := by
  have hRebuilt : (SpanBody.ofSpan (spanOf e storyId id traceId started ended)).toSpan .span now =
      spanOf e storyId id traceId started ended :=
    SpanBody.toSpan_ofSpan (made_spanOf e storyId id traceId started ended).wellFormed now
  have hInsert : Store.replayEvent now (Store.replay now before)
      (Event.ofWrite (.createSpan (spanOf e storyId id traceId started ended)) eventId time) =
        (Store.replay now before).insertSpan
          ((SpanBody.ofSpan (spanOf e storyId id traceId started ended)).toSpan .span now) := rfl
  rw [Store.replay, List.foldl_append, List.foldl_cons, List.foldl_nil]
  change (Store.replayEvent now (Store.replay now before) _).span? id = _
  rw [hInsert, hRebuilt, (Store.indexed_replay now before).span?_insertSpan]
  exact if_pos rfl

/-- No note has metadata of its own under a reserved key. What is recorded for an event that has
none, and whose values survive on a line, is sent, written, read and replayed without a loss: the
story span that is read back tells the event. It has the name of the record, unless a tone is all
that the event is about. -/
theorem recorded_event_told_after_replay :
    (∀ note : StoryNote, note.event.Unreserved) ∧
    ∀ (n : Narrator) (e : StoryEvent) (s s' : Session Narration (Watched σ)) (id : String),
      e.Unreserved → e.Portable → (∀ i, (s.supply.clock i).Dated) → n.record e s = (.ok id, s') →
      ∃ record, s'.sink.handovers.getLast? = some ⟨.createSpan record, none⟩ ∧
        ∀ (eventId : String) (time : Instant), time.Dated →
          ∃ event,
            Event.ofLine? (Event.ofWrite (.createSpan record) eventId time).line = some event ∧
            ∀ (before : List Event) (now : Instant), ∃ rebuilt span,
              (Store.replay now (before ++ [event])).span? id = some rebuilt ∧
              StorySpan.ofRecord? rebuilt = some span ∧ e.ToldBy s.state.storyId span ∧
              s'.state.correlation.map (·.rootTraceId) = some span.traceId ∧
              (e.beatId ≠ none ∨ e.leadUniverse ≠ none ∨ e.emotionalTone = none →
                span.displayName = record.name) := by
  refine ⟨StoryNote.unreserved_event, ?_⟩
  intro n e s s' id hUnreserved hPortable hClock hRun
  have hRecorded := yields_record (s := s) n e
  rw [Work.Yields, hRun] at hRecorded
  obtain ⟨traceId, i, j, hRoot, hLast⟩ := hRecorded id rfl
  have hRecord : (Write.createSpan (spanOf e s.state.storyId id traceId (s.supply.clock i)
      (s.supply.clock j))).Portable :=
    hPortable.spanOf _ id traceId (hClock i).portable (hClock j).portable
  refine ⟨_, hLast, fun eventId time hTime => ⟨_, Event.ofLine?_line_ofWrite hRecord
    (withoutNullOutput_spanOf ..) eventId hTime.portable, fun before now => ⟨_, _,
      span?_replay_spanOf .., hUnreserved.ofRecord?_spanOf .., ?told, hRoot,
      fun hContext => ?name⟩⟩⟩
  case told => exact StoryEvent.toldBy_storySpan (Json.portable_object_iff.1 hPortable.metadata).1 ..
  case name => exact StoryEvent.displayName_storySpan hContext ..

section

/-- A narrator of one story and a store that is watched. -/
def quietNarrator : Narrator := ⟨some "t1", none, "trace", true⟩

def quietSession : Session Narration (Watched Store) :=
  ⟨⟨"s1", none, .default⟩, .start .empty, .counting ⟨0, 0⟩⟩

/-- A beat whose input is a weight. -/
def weighed (weight : Json) : StoryEvent where
  kind := .beatCreated
  input := [("weight", weight)]
  output := some [("kept", .bool true)]
  metadata := [("draft", .number (.int 2))]
  parentId := some "p1"
  beatId := some "b1"
  characterIds := ["c1", "c2"]
  emotionalTone := some "calm"

theorem unreserved_weighed (weight : Json) : (weighed weight).Unreserved := by
  simp [StoryEvent.Unreserved, StoryEvent.reservedKeys, weighed, Table.get?]

theorem readsBack_half : (Json.Number.float 0.5).ReadsBack := by
  have hChars : (Json.Number.float 0.5).chars = ['0', '.', '5'] := by decide +kernel
  have hValue : Json.Number.scaled (Float.ofNat 5) (-1) = some 0.5 := by
    rw [Json.Number.scaled]
    rfl
  refine ⟨⟨false, ['0'], some ['5'], none⟩, by rw [hChars]; rfl, ?_⟩
  exact congrArg (fun x => (x.map (Json.Number.signed false)).map Json.Number.float) hValue

theorem portable_weighed_half : (weighed (.number (.float 0.5))).Portable where
  input := ⟨rfl, by decide, readsBack_half, trivial⟩
  output m hm := Option.mem_some_iff.1 hm ▸ ⟨rfl, by decide, trivial, trivial⟩
  metadata := ⟨rfl, by decide, Json.Number.readsBack_int (by decide) (by decide), trivial⟩

theorem recorded_event_told_after_replay_half :
    (weighed (.number (.float 0.5))).Unreserved ∧ (weighed (.number (.float 0.5))).Portable ∧
    (∀ i, (quietSession.supply.clock i).Dated) ∧
    ∃ id s record event rebuilt span,
      quietNarrator.record (weighed (.number (.float 0.5))) quietSession = (.ok id, s) ∧
      s.sink.handovers.getLast? = some ⟨.createSpan record, none⟩ ∧
      Event.ofLine? (Event.ofWrite (.createSpan record) "e1" ⟨0, 0⟩).line = some event ∧
      (Store.replay ⟨0, 0⟩ [event]).span? id = some rebuilt ∧
      StorySpan.ofRecord? rebuilt = some span ∧
      (weighed (.number (.float 0.5))).ToldBy "s1" span ∧ span.displayName = record.name := by
  have hUnreserved := unreserved_weighed (.number (.float 0.5))
  have hDated : (⟨0, 0⟩ : Instant).Dated := ⟨by decide, by decide⟩
  have hClock : ∀ i, (quietSession.supply.clock i).Dated := fun _ => hDated
  have hRun : quietNarrator.record (weighed (.number (.float 0.5))) quietSession =
      (.ok "i", (quietNarrator.record (weighed (.number (.float 0.5))) quietSession).2) := rfl
  obtain ⟨record, hLast, hRead⟩ := recorded_event_told_after_replay.2 quietNarrator
    (weighed (.number (.float 0.5))) quietSession _ "i" hUnreserved portable_weighed_half hClock hRun
  obtain ⟨event, hLine, hReplay⟩ := hRead "e1" ⟨0, 0⟩ hDated
  obtain ⟨rebuilt, span, hSpan, hTold, hSame, -, hName⟩ := hReplay [] ⟨0, 0⟩
  exact ⟨hUnreserved, portable_weighed_half, hClock, "i", _, record, event, rebuilt, span, hRun,
    hLast, hLine, hSpan, hTold, hSame, hName (.inl nofun)⟩

/-- What is told of an event after it was recorded and its line was read and replayed. -/
def retold (e : StoryEvent) : Option StorySpan := do
  let handover ← (quietNarrator.record e quietSession).2.sink.handovers.getLast?
  let event ← Event.ofLine? (Event.ofWrite handover.write "e1" ⟨0, 0⟩).line
  let rebuilt ← (Store.replay ⟨0, 0⟩ [event]).spans.head?
  StorySpan.ofRecord? rebuilt

/-- The value in so many lists. -/
def boxed (n : Nat) (v : Json) : Json := n.repeat (fun v => .array [v]) v

/-- Some doubles are read from a line one unit in the last place off, and a line that is nested too
deeply is not read at all. -/
theorem weight_changed_by_line :
    (∀ weight, (weighed weight).Unreserved) ∧
    (∃ span, retold (weighed (.number (.float 0.9007407406727833))) = some span ∧
      ((span.input.get? "weight").bind Json.float?).map Float.toBits =
        some (Float.toBits 0.9007407406727832) ∧
      ¬ (weighed (.number (.float 0.9007407406727833))).ToldBy "s1" span) ∧
    retold (weighed (boxed 126 .null)) = none := by
  have hNested : (retold (weighed (boxed 126 .null))).isNone := by
    simp only [retold, Event.ofLine?, Event.line, Json.compress, Json.parseNamed?,
      String.toList_ofList]
    decide +kernel
  refine ⟨unreserved_weighed, ?_, Option.isNone_iff_eq_none.1 hNested⟩
  have hRead : ((retold (weighed (.number (.float 0.9007407406727833)))).bind fun span =>
      ((span.input.get? "weight").bind Json.float?).map Float.toBits) =
        some (Float.toBits 0.9007407406727832) := by
    simp only [retold, Event.ofLine?, Event.line, Json.compress, Json.parseNamed?,
      String.toList_ofList]
    decide +kernel
  obtain ⟨span, hSpan, hWeight⟩ := Option.bind_eq_some_iff.1 hRead
  have hOther : (((weighed (.number (.float 0.9007407406727833))).input.get? "weight").bind
      Json.float?).map Float.toBits ≠ some (Float.toBits 0.9007407406727832) := by
    decide +kernel
  exact ⟨span, hSpan, hWeight, fun hTold => hOther (hTold.input ▸ hWeight)⟩

end

end Narrator

end StoryTrace
