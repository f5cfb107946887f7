import StoryTrace.Event.Basic
import StoryTrace.Store.Basic

/-!
# Well-formed records

The event of a span or closure says the status by its level, its message and its output. For a
well-formed record that is enough: the record can be rebuilt from its event without a loss.
-/

namespace StoryTrace

/-- The status of the span agrees with its end, its level and its output. -/
def Span.WellFormed (s : Span) : Prop :=
  match s.status with
  | .running => s.endedAt = none ∧ s.output = none ∧ s.level = .standard
  | .succeeded => s.endedAt.isSome = true ∧ s.level ≠ .error
  | .failed _ kind =>
    s.endedAt.isSome = true ∧ s.level = .error ∧ kind = SpanBody.errorKind? s.output

/-- The closure ends its span, and its status agrees with its level and its output. -/
def Closure.WellFormed (c : Closure) : Prop :=
  match c.status with
  | .running => False
  | .succeeded => c.level ≠ .error
  | .failed _ kind => c.level = .error ∧ kind = SpanBody.errorKind? c.output

/-- The span or closure that the write carries, if any, is well-formed. -/
def Write.WellFormed : Write → Prop
  | .createSpan s => s.WellFormed
  | .endSpan c => c.WellFormed
  | .createTrace _ | .updateTrace _ => True

namespace SpanBody

theorem getD_of_isNull (v : Json) :
    (if v.isNull then none else some v).getD .null = v := by
  cases v <;> rfl

theorem getD_of_isEmpty (m : Metadata) :
    (if m.isEmpty then none else some m).getD [] = m := by
  cases m <;> rfl

theorem getD_of_standard (level : Level) :
    (if level = .standard then none else some level).getD .standard = level := by
  cases level <;> rfl

theorem ne_error_of_ne {level : Level} (h : level ≠ .error) :
    (if level = .standard then none else some level) ≠ some .error := by
  cases level with
  | error => exact absurd rfl h
  | debug => decide
  | standard => decide
  | warning => decide

/-- A well-formed span is rebuilt from its body, whatever the clock says. -/
theorem toSpan_ofSpan {s : Span} (h : s.WellFormed) (now : Instant) :
    (ofSpan s).toSpan s.type now = s := by
  obtain ⟨id, traceId, parentId, type, name, input, output, metadata, startedAt, endedAt, status,
    level, usage⟩ := s
  cases status with
  | running =>
      obtain ⟨rfl, rfl, rfl⟩ := h
      simp only [toSpan, ofSpan, Span.new, getD_of_isNull, getD_of_isEmpty, Option.getD_some]
  | succeeded =>
      obtain ⟨hEnded, hLevel⟩ := h
      obtain ⟨time, rfl⟩ := Option.isSome_iff_exists.1 hEnded
      have hStatus : (ofSpan ⟨id, traceId, parentId, type, name, input, output, metadata,
          startedAt, some time, .succeeded, level, usage⟩).status = .succeeded :=
        if_neg (ne_error_of_ne hLevel)
      simp only [toSpan, hStatus]
      simp only [ofSpan, Span.new, getD_of_isNull, getD_of_isEmpty, getD_of_standard,
        Option.getD_some, Status.isFailed, Bool.false_eq_true, if_false]
  | failed message kind =>
      obtain ⟨hEnded, rfl, rfl⟩ :
        endedAt.isSome = true ∧ level = .error ∧ kind = errorKind? output := h
      obtain ⟨time, rfl⟩ := Option.isSome_iff_exists.1 hEnded
      simp only [toSpan, ofSpan, Span.new, getD_of_isNull, getD_of_isEmpty, SpanBody.status,
        Status.isFailed, Status.message?, Option.getD_some, if_true]

/-- A well-formed closure is rebuilt from its body, whatever the clock says. -/
theorem toClosure_ofClosure {c : Closure} (h : c.WellFormed) (now : Instant) :
    (ofClosure c).toClosure c.type now = c := by
  obtain ⟨spanId, traceId, type, output, status, level, usage, endedAt⟩ := c
  cases status with
  | running => cases h
  | succeeded =>
      have hLevel : level ≠ .error := h
      simp [toClosure, ofClosure, SpanBody.status, hLevel]
  | failed message kind =>
      obtain ⟨rfl, rfl⟩ : level = .error ∧ kind = errorKind? output := h
      simp [toClosure, ofClosure, SpanBody.status, Status.message?]

end SpanBody

/-- A trace is rebuilt from its body, whatever the clock says. -/
theorem TraceBody.toTrace_ofTrace (t : Trace) (now : Instant) : (ofTrace t).toTrace now = t := by
  simp only [toTrace, ofTrace, SpanBody.getD_of_isEmpty, Option.getD_some]

/-! ## Records that are made well-formed -/

/-- The spans that are made by starting with a new one, setting what is known, and finishing. -/
inductive Span.Made : Span → Prop where
  | new (id traceId name : String) (now : Instant) : Made (Span.new id traceId name now)
  | withId {s : Span} (h : Made s) (id : String) : Made { s with id }
  | withParent {s : Span} (h : Made s) (parentId : Option String) : Made { s with parentId }
  | withType {s : Span} (h : Made s) (type : SpanType) : Made { s with type }
  | asGeneration {s : Span} (h : Made s) : Made { s with type := .generation }
  | withInput {s : Span} (h : Made s) (input : Json) : Made { s with input }
  | withMetadata {s : Span} (h : Made s) (metadata : Metadata) : Made { s with metadata }
  | finished {s : Span} (h : Made s) (output : Option Json) (now : Instant) :
      Made (s.finished output now)

theorem Span.Made.level_eq {s : Span} (h : s.Made) : s.level = .standard := by
  induction h with
  | new _ _ _ _ => rfl
  | withId _ _ ih | withParent _ _ ih | withType _ _ ih | asGeneration _ ih | withInput _ _ ih
  | withMetadata _ _ ih | finished _ _ _ ih => exact ih

theorem Span.Made.wellFormed {s : Span} (h : s.Made) : s.WellFormed := by
  induction h with
  | new _ _ _ _ => exact ⟨rfl, rfl, rfl⟩
  | withId _ _ ih | withParent _ _ ih | withType _ _ ih | asGeneration _ ih | withInput _ _ ih
  | withMetadata _ _ ih => exact ih
  | finished hMade _ _ _ =>
      refine ⟨rfl, ?_⟩
      intro hError
      have hLevel := hMade.level_eq.symm.trans hError
      cases hLevel

/-- The closures that are made by telling a success or a failure and setting what is known. -/
inductive Closure.Made : Closure → Prop where
  | succeeded (spanId traceId : String) (output : Option Json) (now : Instant) :
      Made (.succeeded spanId traceId output now)
  | failed (spanId traceId message : String) (kind : Option String) (now : Instant) :
      Made (.failed spanId traceId message kind now)
  | withType {c : Closure} (h : Made c) (type : SpanType) : Made (c.withType type)
  | withUsage {c : Closure} (h : Made c) (usage : Option Usage) : Made (c.withUsage usage)

/-- The output of a failure names its kind. -/
theorem SpanBody.errorKind?_failureOutput (message : String) (kind : Option String) :
    errorKind? (some (Closure.failureOutput message kind)) = kind := by
  cases kind <;> rfl

theorem Closure.Made.wellFormed {c : Closure} (h : c.Made) : c.WellFormed := by
  induction h with
  | succeeded _ _ _ _ => exact nofun
  | failed _ _ message kind _ => exact ⟨rfl, (SpanBody.errorKind?_failureOutput message kind).symm⟩
  | withType _ _ ih | withUsage _ _ ih => exact ih

end StoryTrace
