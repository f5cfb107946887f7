import StoryTrace.Proofs.Event.Codec
import StoryTrace.Proofs.Record.WellFormed
import StoryTrace.Store.Replay

/-!
# Records on the wire

A record goes into an event, the event onto a line, and the line is read and decoded again. Nothing
about a well-formed record is lost on the way, except that an output that is null is then absent.
-/

namespace StoryTrace

open Json (nonNull?)

/-! ## What is written -/

structure Trace.Portable (t : Trace) : Prop where
  metadata : (Json.object t.metadata).Portable
  createdAt : t.createdAt.Portable
  output : ∀ v ∈ t.output, v.Portable

structure TraceUpdate.Portable (u : TraceUpdate) : Prop where
  output : ∀ v ∈ u.output, v.Portable
  metadata : (Json.object u.metadata).Portable

structure Span.Portable (s : Span) : Prop where
  input : s.input.Portable
  output : ∀ v ∈ s.output, v.Portable
  metadata : (Json.object s.metadata).Portable
  startedAt : s.startedAt.Portable
  endedAt : ∀ t ∈ s.endedAt, t.Portable
  usage : ∀ u ∈ s.usage, u.Portable

structure Closure.Portable (c : Closure) : Prop where
  output : ∀ v ∈ c.output, v.Portable
  usage : ∀ u ∈ c.usage, u.Portable
  endedAt : c.endedAt.Portable

/-- The values in the record of the write survive on their own. -/
def Write.Portable : Write → Prop
  | .createTrace t => t.Portable
  | .createSpan s => s.Portable
  | .endSpan c => c.Portable
  | .updateTrace u => u.Portable

theorem eq_of_mem_ite_none {α : Type} {p : Prop} [Decidable p] {a x : α}
    (h : x ∈ if p then none else some a) : x = a := by
  split at h
  · cases h
  · exact (Option.mem_some_iff.1 h).symm

namespace SpanBody

theorem portable_ofSpan {s : Span} (h : s.Portable) : (ofSpan s).Portable where
  startTime _ ht := Option.mem_some_iff.1 ht ▸ h.startedAt
  endTime := h.endedAt
  input _ hv := eq_of_mem_ite_none hv ▸ h.input
  output := h.output
  metadata _ hm := eq_of_mem_ite_none hm ▸ h.metadata
  usage := h.usage

theorem portable_ofClosure {c : Closure} (h : c.Portable) : (ofClosure c).Portable where
  startTime := nofun
  endTime _ ht := Option.mem_some_iff.1 ht ▸ h.endedAt
  input := nofun
  output := h.output
  metadata := nofun
  usage := h.usage

end SpanBody

namespace TraceBody

theorem portable_ofTrace {t : Trace} (h : t.Portable) : (ofTrace t).Portable where
  metadata _ hm := eq_of_mem_ite_none hm ▸ h.metadata
  output := h.output
  timestamp _ hTime := Option.mem_some_iff.1 hTime ▸ h.createdAt

theorem portable_ofUpdate {u : TraceUpdate} (h : u.Portable) : (ofUpdate u).Portable where
  metadata _ hm := eq_of_mem_ite_none hm ▸ h.metadata
  output := h.output
  timestamp := nofun

end TraceBody

theorem Event.portable_body_ofWrite {w : Write} (h : w.Portable) (id : String) (time : Instant) :
    (ofWrite w id time).body.Portable := by
  cases w with
  | createTrace t => exact TraceBody.portable_ofTrace h
  | createSpan s => exact SpanBody.portable_ofSpan h
  | endSpan c => exact SpanBody.portable_ofClosure h
  | updateTrace u => exact TraceBody.portable_ofUpdate h

/-! ## What is lost -/

/-- The record of the write, with an output that is null left out. -/
def Write.withoutNullOutput : Write → Write
  | .createTrace t => .createTrace { t with output := nonNull? t.output }
  | .createSpan s => .createSpan { s with output := nonNull? s.output }
  | .endSpan c => .endSpan { c with output := nonNull? c.output }
  | .updateTrace u => .updateTrace { u with output := nonNull? u.output }

theorem Json.nonNull?_ite (v : Json) :
    nonNull? (if v.isNull then none else some v) = if v.isNull then none else some v := by
  cases v <;> rfl

/-- A null output names no kind of error. -/
theorem SpanBody.errorKind?_nonNull? (output : Option Json) :
    errorKind? (nonNull? output) = errorKind? output := by
  cases output with
  | none => rfl
  | some v => cases v <;> rfl

theorem Write.WellFormed.withoutNullOutput {w : Write} (h : w.WellFormed) :
    w.withoutNullOutput.WellFormed := by
  cases w with
  | createTrace t => exact trivial
  | createSpan s =>
      obtain ⟨id, traceId, parentId, type, name, input, output, metadata, startedAt, endedAt,
        status, level, usage⟩ := s
      cases status with
      | running =>
          obtain ⟨hEnd, rfl, hLevel⟩ := h
          exact ⟨hEnd, rfl, hLevel⟩
      | succeeded => exact h
      | failed message kind =>
          obtain ⟨hEnd, hLevel, hKind⟩ := h
          exact ⟨hEnd, hLevel, hKind.trans (SpanBody.errorKind?_nonNull? output).symm⟩
  | endSpan c =>
      obtain ⟨spanId, traceId, type, output, status, level, usage, endedAt⟩ := c
      cases status with
      | running => cases h
      | succeeded => exact h
      | failed message kind =>
          obtain ⟨hLevel, hKind⟩ := h
          exact ⟨hLevel, hKind.trans (SpanBody.errorKind?_nonNull? output).symm⟩
  | updateTrace u => exact trivial

namespace Event

/-- Reading nulls as absent does to an event what leaving out a null output does to its record. -/
theorem withoutNulls_ofWrite (w : Write) (id : String) (time : Instant) :
    (ofWrite w id time).withoutNulls = ofWrite w.withoutNullOutput id time := by
  cases w with
  | createTrace t => rfl
  | createSpan s =>
      simp only [ofWrite, ofSpan, withoutNulls, EventBody.withoutNulls, SpanBody.withoutNulls,
        SpanBody.ofSpan, Write.withoutNullOutput, Json.nonNull?_ite]
  | endSpan c => rfl
  | updateTrace u => rfl

/-! ## What arrives -/

/-- The event decodes to the record of the write: its body is that of a span or of a trace, as the
record asks, and no time has to be filled in. -/
def Carries (e : Event) : Write → Prop
  | .createTrace t => ∃ b, e.body = .trace b ∧ ∀ now, b.toTrace now = t
  | .createSpan s => ∃ b type, e.body = .span b ∧ e.kind.spanType? = some type ∧
      ∀ now, b.toSpan type now = s
  | .endSpan c => ∃ b type, e.body = .span b ∧ e.kind.spanType? = some type ∧
      ∀ now, b.toClosure type now = c
  | .updateTrace u => ∃ b, e.body = .trace b ∧ b.id = u.traceId ∧ b.output = u.output ∧
      b.metadata.getD [] = u.metadata ∧ b.name = none ∧ b.sessionId = none ∧ b.timestamp = none

/-- The event of a well-formed record decodes to it. -/
theorem carries_ofWrite {w : Write} (h : w.WellFormed) (id : String) (time : Instant) :
    (ofWrite w id time).Carries w := by
  cases w with
  | createTrace t => exact ⟨_, rfl, TraceBody.toTrace_ofTrace t⟩
  | createSpan s =>
      exact ⟨_, s.type, rfl, EventKind.spanType?_create s.type, SpanBody.toSpan_ofSpan h⟩
  | endSpan c =>
      exact ⟨_, c.type, rfl, EventKind.spanType?_update c.type, SpanBody.toClosure_ofClosure h⟩
  | updateTrace u =>
      exact ⟨_, rfl, rfl, rfl, SpanBody.getD_of_isEmpty u.metadata, rfl, rfl, rfl⟩

/-- The event of a record is written on one line. That line is read as an event with the same id,
time and kind, and the event decodes to the record. -/
theorem record_read_back_from_line {w : Write} (hWell : w.WellFormed) (hPortable : w.Portable)
    (id : String) {time : Instant} (hTime : time.Portable) :
    '\n' ∉ (ofWrite w id time).line.toList ∧
      ∃ e, ofLine? (ofWrite w id time).line = some e ∧ e.id = id ∧ e.timestamp = time ∧
        e.kind = (ofWrite w id time).kind ∧ e.Carries w.withoutNullOutput := by
  have hBody := portable_body_ofWrite hPortable id time
  refine ⟨newline_not_mem_line hBody, ofWrite w.withoutNullOutput id time, ?line, ?id, ?timestamp,
    ?kind, ?record⟩
  case line =>
    have hTimestamp : (ofWrite w id time).timestamp.Portable := by cases w <;> exact hTime
    rw [ofLine?_line hTimestamp hBody, withoutNulls_ofWrite]
  case id => cases w <;> rfl
  case timestamp => cases w <;> rfl
  case kind => cases w <;> rfl
  case record => exact carries_ofWrite hWell.withoutNullOutput id time

/-- A call of a model that comes with a warning and whose output is null. -/
def warnedAnswer : Span :=
  { Span.new "s2" "t1" "say \"why\"" ⟨1700000000, 0⟩ with
    parentId := some "s1"
    type := .generation
    input := .object [("question", .array [.string "why?\n", .ofNat 3, .bool true])]
    output := some .null
    metadata := [("model", .string "small")]
    endedAt := some ⟨1700000001, 250000000⟩
    status := .succeeded
    level := .warning
    usage := some (.ofCounts 12 30) }

theorem portable_warnedAnswer : warnedAnswer.Portable where
  input :=
    { canonical := rfl
      legible := ⟨by decide, ⟨by decide, trivial, Json.legible_ofNat (by decide), trivial, trivial⟩,
        trivial⟩ }
  output v hv := Option.mem_some_iff.1 hv ▸ ⟨rfl, trivial⟩
  metadata := ⟨rfl, by decide, trivial, trivial⟩
  startedAt := by decide
  endedAt t ht := by
    obtain rfl := Option.mem_some_iff.1 ht
    decide
  usage u hu := by
    obtain rfl := Option.mem_some_iff.1 hu
    exact ⟨by decide, by decide, by decide⟩

theorem record_read_back_from_line_warnedAnswer :
    ∃ e, ofLine? (ofSpan warnedAnswer "e1" ⟨1700000002, 0⟩).line = some e ∧ e.id = "e1" ∧
      e.kind = .generationCreate ∧ ∃ b, e.body = .span b ∧
        ∀ now, b.toSpan .generation now = { warnedAnswer with output := none } := by
  have hWell : (Write.createSpan warnedAnswer).WellFormed := ⟨rfl, by decide⟩
  have hTime : Instant.Portable ⟨1700000002, 0⟩ := by decide
  obtain ⟨-, e, hLine, hId, -, hKind, b, type, hBody, hType, hSpan⟩ :=
    record_read_back_from_line hWell portable_warnedAnswer "e1" hTime
  have hGeneration : e.kind = .generationCreate := hKind
  rw [hGeneration] at hType
  cases hType
  exact ⟨e, hLine, hId, hGeneration, b, hBody, hSpan⟩

end Event

end StoryTrace
