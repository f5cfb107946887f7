import StoryTrace.Record.Codec
import StoryTrace.Supply

/-!
# Drafts of records

A record can be asked for as a whole, or by its parts. The ids and times that a draft by parts
leaves open are generated.
-/

namespace StoryTrace

open Json (Layout)

/-- The record that a draft gives as a whole, or else the one made of its parts. -/
def Json.Layout.whole? {α : Type} (l : Layout) (read : Json → Option α) (parts : Option α) :
    Option α :=
  match l.slot? 0 "raw" with
  | some (some v) => read v
  | some none => parts
  | none => none

/-- A free-form field, in which null is a value. -/
def Json.Layout.value? (l : Layout) (key : String) : Option (Option Json) :=
  l.withDefault 0 key none fun v => some (some v.canonical)

def Trace.draft? (fresh : String) (now : Instant) (v : Json) : Option Trace := do
  let l ← Layout.ofObject? v
  l.whole? Trace.ofJson? do
    let id ← l.optional 0 "id" Json.string?
    let name ← l.required 0 "name" Json.string?
    let sessionId ← l.optional 0 "session" Json.string?
    let metadata ← l.metadata 0 "metadata"
    let output ← l.value? "output"
    return { Trace.new (id.getD fresh) name now with sessionId, metadata, output }

/-- The output that a finished draft gives, if it is finished. -/
def Span.draftEnd? (v : Json) : Option (Option Json) :=
  (Layout.ofObject? v).bind (·.value? "output")

def Span.draft? (fresh : String) (now ended : Instant) (v : Json) : Option Span := do
  let l ← Layout.ofObject? v
  l.whole? Span.ofJson? do
    let id ← l.optional 0 "id" Json.string?
    let traceId ← l.required 0 "trace_id" Json.string?
    let name ← l.required 0 "name" Json.string?
    let parentId ← l.optional 0 "parent" Json.string?
    let type ← l.withDefault 0 "type" .span SpanType.ofJson?
    let generation ← l.withDefault 0 "generation" false Json.bool?
    let input ← l.withDefault 0 "input" .null fun v => some v.canonical
    let metadata ← l.metadata 0 "metadata"
    let finished ← l.withDefault 0 "finished" none fun v => (draftEnd? v).map some
    let usage ← l.withDefault 0 "usage" none fun v => (Usage.ofJson? v).map some
    let level ← l.withDefault 0 "level" .standard Level.ofJson?
    let opened : Span :=
      { Span.new (id.getD fresh) traceId name now with
        parentId
        type := if generation then .generation else type
        input
        metadata }
    let span := match finished with
      | some output => opened.finished output ended
      | none => opened
    return { span with usage, level }

def Closure.draft? (now : Instant) (v : Json) : Option Closure := do
  let l ← Layout.ofObject? v
  l.whole? Closure.ofJson? do
    let spanId ← l.required 0 "span_id" Json.string?
    let traceId ← l.required 0 "trace_id" Json.string?
    let message ← l.optional 0 "message" Json.string?
    let kind ← l.optional 0 "kind" Json.string?
    let output ← l.value? "output"
    let plain := match message with
      | some message => failed spanId traceId message kind now
      | none => succeeded spanId traceId output now
    let type ← l.withDefault 0 "type" plain.type SpanType.ofJson?
    let usage ← l.optional 0 "usage" Usage.ofJson?
    let level ← l.withDefault 0 "level" plain.level Level.ofJson?
    let endedAt ← l.withDefault 0 "ended_at" now Instant.ofJson?
    return { (plain.withType type).withUsage usage with level, endedAt }

def TraceUpdate.draft? (v : Json) : Option TraceUpdate := do
  let l ← Layout.ofObject? v
  l.whole? TraceUpdate.ofJson? do
    let traceId ← l.required 0 "trace_id" Json.string?
    let output ← l.value? "output"
    let metadata ← l.metadata 0 "metadata"
    return { traceId, output, metadata }

end StoryTrace
