import StoryTrace.Event.Codec
import StoryTrace.Proofs.Json.Fields
import StoryTrace.Proofs.Json.Lines

/-!
# Events read back

A line written for an event is read as that event. Only a null that stands for input or output is
read as absent. The body needs no mark: the body of a trace has no trace id, so it is not mistaken
for the body of a span.
-/

namespace StoryTrace

/-! ## Values that survive -/

/-- Free-form data can be nested so deep inside of the body of an event. -/
def Json.payloadDepth : Nat := Json.maxDepth - 2

/-- A value as the readers build it, which they can read from the body of an event. -/
structure Json.Portable (v : Json) : Prop where
  canonical : v.canonical = v
  legible : v.Legible Json.payloadDepth

/-- The written time names the instant. -/
def Instant.Portable (t : Instant) : Prop := Rfc3339.read? (Rfc3339.text t) = some t

instance (t : Instant) : Decidable t.Portable :=
  inferInstanceAs (Decidable (Rfc3339.read? (Rfc3339.text t) = some t))

/-- Counts of up to 64 bits. -/
structure Usage.Portable (u : Usage) : Prop where
  prompt : ∀ n ∈ u.prompt, n < UInt64.size
  completion : ∀ n ∈ u.completion, n < UInt64.size
  total : ∀ n ∈ u.total, n < UInt64.size

structure SpanBody.Portable (b : SpanBody) : Prop where
  startTime : ∀ t ∈ b.startTime, t.Portable
  endTime : ∀ t ∈ b.endTime, t.Portable
  input : ∀ v ∈ b.input, v.Portable
  output : ∀ v ∈ b.output, v.Portable
  metadata : ∀ m ∈ b.metadata, (Json.object m).Portable
  usage : ∀ u ∈ b.usage, u.Portable

structure TraceBody.Portable (b : TraceBody) : Prop where
  metadata : ∀ m ∈ b.metadata, (Json.object m).Portable
  output : ∀ v ∈ b.output, v.Portable
  timestamp : ∀ t ∈ b.timestamp, t.Portable

def EventBody.Portable : EventBody → Prop
  | .span b => b.Portable
  | .trace b => b.Portable

open Json (written nonNull?)
open Json.Layout

/-! ## Parts of a body -/

theorem Json.metadata?_object {m : Metadata} (h : (Json.object m).canonical = .object m) :
    metadata? (.object m) = some m := by
  rw [canonical] at h
  rw [metadata?, Json.object.inj h]

theorem Instant.ofJson?_toJson {t : Instant} (h : t.Portable) : ofJson? t.toJson = some t := by
  rw [ofJson?, toJson, Json.string?_string, Option.bind_some]
  exact h

section Fields

variable {fields : List (String × Option Json)} {key : String} {index : Nat}
  (hKeys : (fields.map (·.1)).Nodup)
include hKeys

theorem optional_text {x : Option String} (h : fields[index]? = some (key, x.map .string)) :
    (named (written fields)).optional index key Json.string? = some x :=
  optional_written hKeys h fun _ _ => ⟨rfl, rfl⟩

theorem optional_time {x : Option Instant} (h : fields[index]? = some (key, x.map (·.toJson)))
    (hPortable : ∀ t ∈ x, t.Portable) :
    (named (written fields)).optional index key Instant.ofJson? = some x :=
  optional_written hKeys h fun t ht => ⟨rfl, Instant.ofJson?_toJson (hPortable t ht)⟩

theorem optional_metadata {x : Option Metadata} (h : fields[index]? = some (key, x.map .object))
    (hPortable : ∀ m ∈ x, (Json.object m).Portable) :
    (named (written fields)).optional index key Json.metadata? = some x :=
  optional_written hKeys h fun m hm => ⟨rfl, Json.metadata?_object (hPortable m hm).canonical⟩

theorem optional_payload {x : Option Json} (h : fields[index]? = some (key, x))
    (hPortable : ∀ v ∈ x, v.Portable) :
    (named (written fields)).optionalValue index key = some (nonNull? x) :=
  optionalValue_written hKeys h fun v hv => (hPortable v hv).canonical

end Fields

theorem Json.legible_ofNat {n depth : Nat} (h : n < UInt64.size) : (ofNat n).Legible depth := by
  simp only [UInt64.size] at h
  apply Number.readsBack_int
  · simp only [Int.ofNat_eq_natCast]
    omega
  · simp only [Int.ofNat_eq_natCast]
    omega

namespace Usage

def fields (u : Usage) : List (String × Option Json) :=
  [("promptTokens", u.prompt.map .ofNat), ("completionTokens", u.completion.map .ofNat),
    ("totalTokens", u.total.map .ofNat)]

theorem toJson_eq (u : Usage) : u.toJson = .object (written u.fields) := by
  simp [toJson, written, fields]

theorem nodup_fields (u : Usage) : (u.fields.map (·.1)).Nodup := by
  simp [fields]

theorem ofJson?_toJson {u : Usage} (h : u.Portable) : ofJson? u.toJson = some u := by
  have hKeys := nodup_fields u
  have hCount (x : Option Nat) (hBound : ∀ n ∈ x, n < UInt64.size) :
      ∀ n ∈ x, (Json.ofNat n).isNull = false ∧ Json.nat? (Json.ofNat n) = some n :=
    fun n hn => ⟨rfl, Json.nat?_ofNat (hBound n hn)⟩
  have hPrompt : (named (written u.fields)).optional 0 "promptTokens" Json.nat? = some u.prompt :=
    optional_written hKeys rfl (hCount _ h.prompt)
  have hCompletion : (named (written u.fields)).optional 1 "completionTokens" Json.nat? =
      some u.completion :=
    optional_written hKeys rfl (hCount _ h.completion)
  have hTotal : (named (written u.fields)).optional 2 "totalTokens" Json.nat? = some u.total :=
    optional_written hKeys rfl (hCount _ h.total)
  rw [toJson_eq]
  simp only [ofJson?, of?, hPrompt, hCompletion, hTotal, Option.bind_eq_bind, Option.bind_some]
  rfl

theorem legible_toJson {u : Usage} (h : u.Portable) : u.toJson.Legible Json.payloadDepth := by
  rw [toJson_eq]
  refine ⟨by decide, Json.legibleMembers_written ?_⟩
  simp only [fields, List.forall_mem_cons]
  refine ⟨?prompt, ?completion, ?total, by simp⟩
  case prompt => exact Json.legible_map fun n hn => Json.legible_ofNat (h.prompt n hn)
  case completion => exact Json.legible_map fun n hn => Json.legible_ofNat (h.completion n hn)
  case total => exact Json.legible_map fun n hn => Json.legible_ofNat (h.total n hn)

end Usage

/-! ## Bodies of spans -/

namespace SpanBody

def fields (b : SpanBody) : List (String × Option Json) :=
  [("id", some (.string b.id)), ("traceId", some (.string b.traceId)),
    ("parentObservationId", b.parentId.map .string), ("name", b.name.map .string),
    ("startTime", b.startTime.map (·.toJson)), ("endTime", b.endTime.map (·.toJson)),
    ("input", b.input), ("output", b.output), ("metadata", b.metadata.map .object),
    ("level", b.level.map (·.toJson)), ("statusMessage", b.statusMessage.map .string),
    ("usage", b.usage.map (·.toJson))]

theorem toJson_eq (b : SpanBody) : b.toJson = .object (written b.fields) := by
  simp [toJson, written, fields, Json.given]

theorem nodup_fields (b : SpanBody) : (b.fields.map (·.1)).Nodup := by
  simp [fields]

/-- The body with its nulls read as absent. -/
def withoutNulls (b : SpanBody) : SpanBody :=
  { b with input := nonNull? b.input, output := nonNull? b.output }

theorem ofJson?_toJson {b : SpanBody} (h : b.Portable) :
    ofJson? b.toJson = some b.withoutNulls := by
  have hKeys := nodup_fields b
  let l := named (written b.fields)
  have hId : l.required 0 "id" Json.string? = some b.id := required_written hKeys rfl rfl
  have hTraceId : l.required 1 "traceId" Json.string? = some b.traceId :=
    required_written hKeys rfl rfl
  have hParentId : l.optional 2 "parentObservationId" Json.string? = some b.parentId :=
    optional_text hKeys rfl
  have hName : l.optional 3 "name" Json.string? = some b.name := optional_text hKeys rfl
  have hStart : l.optional 4 "startTime" Instant.ofJson? = some b.startTime :=
    optional_time hKeys rfl h.startTime
  have hEnd : l.optional 5 "endTime" Instant.ofJson? = some b.endTime :=
    optional_time hKeys rfl h.endTime
  have hInput : l.optionalValue 6 "input" = some (nonNull? b.input) :=
    optional_payload hKeys rfl h.input
  have hOutput : l.optionalValue 7 "output" = some (nonNull? b.output) :=
    optional_payload hKeys rfl h.output
  have hMetadata : l.optional 8 "metadata" Json.metadata? = some b.metadata :=
    optional_metadata hKeys rfl h.metadata
  have hLevel : l.optional 9 "level" Level.ofJson? = some b.level :=
    optional_written hKeys rfl fun x _ => ⟨rfl, Level.ofJson?_toJson x⟩
  have hMessage : l.optional 10 "statusMessage" Json.string? = some b.statusMessage :=
    optional_text hKeys rfl
  have hUsage : l.optional 11 "usage" Usage.ofJson? = some b.usage :=
    optional_written hKeys rfl fun u hu => ⟨rfl, Usage.ofJson?_toJson (h.usage u hu)⟩
  rw [toJson_eq]
  simp only [ofJson?, of?, l, hId, hTraceId, hParentId, hName, hStart, hEnd, hInput, hOutput,
    hMetadata, hLevel, hMessage, hUsage, Option.bind_eq_bind, Option.bind_some]
  rfl

theorem legible_toJson {b : SpanBody} (h : b.Portable) :
    b.toJson.Legible (Json.payloadDepth + 1) := by
  rw [toJson_eq]
  refine ⟨Nat.succ_pos _, Json.legibleMembers_written ?_⟩
  simp only [fields, List.forall_mem_cons]
  refine ⟨?_, ?_, ?_, ?_, ?_, ?_, ?input, ?output, ?metadata, ?_, ?_, ?usage, ?_⟩
  case input => exact fun v hv => (h.input v hv).legible
  case output => exact fun v hv => (h.output v hv).legible
  case metadata => exact Json.legible_map fun m hm => (h.metadata m hm).legible
  case usage => exact Json.legible_map fun u hu => Usage.legible_toJson (h.usage u hu)
  all_goals simp [Json.Legible, Instant.toJson, Level.toJson]

end SpanBody

/-! ## Bodies of traces -/

namespace TraceBody

def fields (b : TraceBody) : List (String × Option Json) :=
  [("id", some (.string b.id)), ("name", b.name.map .string),
    ("sessionId", b.sessionId.map .string), ("metadata", b.metadata.map .object),
    ("output", b.output), ("timestamp", b.timestamp.map (·.toJson))]

theorem toJson_eq (b : TraceBody) : b.toJson = .object (written b.fields) := by
  simp [toJson, written, fields, Json.given]

theorem nodup_fields (b : TraceBody) : (b.fields.map (·.1)).Nodup := by
  simp [fields]

/-- The body with its nulls read as absent. -/
def withoutNulls (b : TraceBody) : TraceBody := { b with output := nonNull? b.output }

theorem ofJson?_toJson {b : TraceBody} (h : b.Portable) :
    ofJson? b.toJson = some b.withoutNulls := by
  have hKeys := nodup_fields b
  let l := named (written b.fields)
  have hId : l.required 0 "id" Json.string? = some b.id := required_written hKeys rfl rfl
  have hName : l.optional 1 "name" Json.string? = some b.name := optional_text hKeys rfl
  have hSession : l.optional 2 "sessionId" Json.string? = some b.sessionId :=
    optional_text hKeys rfl
  have hMetadata : l.optional 3 "metadata" Json.metadata? = some b.metadata :=
    optional_metadata hKeys rfl h.metadata
  have hOutput : l.optionalValue 4 "output" = some (nonNull? b.output) :=
    optional_payload hKeys rfl h.output
  have hTime : l.optional 5 "timestamp" Instant.ofJson? = some b.timestamp :=
    optional_time hKeys rfl h.timestamp
  rw [toJson_eq]
  simp only [ofJson?, of?, l, hId, hName, hSession, hMetadata, hOutput, hTime,
    Option.bind_eq_bind, Option.bind_some]
  rfl

/-- The body of a trace is not read as the body of a span. -/
theorem spanBody_ofJson?_toJson (b : TraceBody) : SpanBody.ofJson? b.toJson = none := by
  let l := named (written b.fields)
  have hId : l.required 0 "id" Json.string? = some b.id :=
    required_written (nodup_fields b) rfl rfl
  have hTraceId : l.required 1 "traceId" Json.string? = none := by
    rw [required, slot?_written_of_not_mem (by simp [fields])]
    rfl
  rw [toJson_eq, SpanBody.ofJson?]
  change (l.required 0 "id" Json.string?).bind _ = none
  rw [hId]
  change (l.required 1 "traceId" Json.string?).bind _ = none
  rw [hTraceId]
  rfl

theorem legible_toJson {b : TraceBody} (h : b.Portable) :
    b.toJson.Legible (Json.payloadDepth + 1) := by
  rw [toJson_eq]
  refine ⟨Nat.succ_pos _, Json.legibleMembers_written ?_⟩
  simp only [fields, List.forall_mem_cons]
  refine ⟨?_, ?_, ?_, ?metadata, ?output, ?_, ?_⟩
  case metadata => exact Json.legible_map fun m hm => (h.metadata m hm).legible
  case output => exact fun v hv => (h.output v hv).legible
  all_goals simp [Json.Legible, Instant.toJson]

end TraceBody

/-! ## Events -/

namespace EventBody

def withoutNulls : EventBody → EventBody
  | .span b => .span b.withoutNulls
  | .trace b => .trace b.withoutNulls

theorem ofJson?_toJson {b : EventBody} (h : b.Portable) :
    ofJson? b.toJson = some b.withoutNulls := by
  cases b with
  | span b =>
      simp only [ofJson?, toJson, SpanBody.ofJson?_toJson h, withoutNulls]
  | trace b =>
      simp only [ofJson?, toJson, TraceBody.spanBody_ofJson?_toJson, TraceBody.ofJson?_toJson h,
        withoutNulls, Option.map_some]

theorem legible_toJson {b : EventBody} (h : b.Portable) :
    b.toJson.Legible (Json.payloadDepth + 1) := by
  cases b with
  | span b => exact SpanBody.legible_toJson h
  | trace b => exact TraceBody.legible_toJson h

end EventBody

namespace Event

def fields (e : Event) : List (String × Option Json) :=
  [("id", some (.string e.id)), ("timestamp", some e.timestamp.toJson),
    ("type", some e.kind.toJson), ("body", some e.body.toJson)]

theorem toJson_eq (e : Event) : e.toJson = .object (written e.fields) := rfl

/-- The event with the nulls of its body read as absent. -/
def withoutNulls (e : Event) : Event := { e with body := e.body.withoutNulls }

theorem ofJson?_toJson {e : Event} (hTime : e.timestamp.Portable) (hBody : e.body.Portable) :
    ofJson? e.toJson = some e.withoutNulls := by
  have hKeys : (e.fields.map (·.1)).Nodup := by simp [fields]
  let l := named (written e.fields)
  have hId : l.required 0 "id" Json.string? = some e.id := required_written hKeys rfl rfl
  have hTimestamp : l.required 1 "timestamp" Instant.ofJson? = some e.timestamp :=
    required_written hKeys rfl (Instant.ofJson?_toJson hTime)
  have hKind : l.required 2 "type" EventKind.ofJson? = some e.kind :=
    required_written hKeys rfl (EventKind.ofJson?_toJson _)
  have hRead : l.required 3 "body" EventBody.ofJson? = some e.body.withoutNulls :=
    required_written hKeys rfl (EventBody.ofJson?_toJson hBody)
  rw [toJson_eq]
  simp only [ofJson?, of?, l, hId, hTimestamp, hKind, hRead, Option.bind_eq_bind,
    Option.bind_some]
  rfl

theorem legible_toJson {e : Event} (hBody : e.body.Portable) : e.toJson.Legible Json.maxDepth := by
  rw [toJson_eq]
  refine ⟨by decide, Json.legibleMembers_written ?_⟩
  simp only [fields, List.forall_mem_cons]
  refine ⟨?_, ?_, ?_, ?body, ?_⟩
  case body =>
    intro v hv
    obtain rfl := Option.mem_some_iff.1 hv
    exact EventBody.legible_toJson hBody
  all_goals simp [Json.Legible, Instant.toJson, EventKind.toJson]

theorem newline_not_mem_line {e : Event} (hBody : e.body.Portable) : '\n' ∉ e.line.toList := by
  rw [line, Json.compress, String.toList_ofList]
  exact (Json.inLine_print (legible_toJson hBody)).newline_not_mem

theorem parseNamed?_line {e : Event} (hBody : e.body.Portable) :
    Json.parseNamed? memberNames e.line = some e.toJson := by
  have hMembers := (legible_toJson hBody).2
  refine Json.parseNamed?_compress ?_ hMembers
  intro member hMember
  have hField : member.1 ∈ e.fields.map (·.1) :=
    List.mem_map.2 ⟨_, Json.mem_written_iff.1 hMember, rfl⟩
  exact hField

/-- Every line that is written for an event is read as that event. -/
theorem ofLine?_line {e : Event} (hTime : e.timestamp.Portable) (hBody : e.body.Portable) :
    ofLine? e.line = some e.withoutNulls := by
  rw [ofLine?, parseNamed?_line hBody, Option.bind_some, ofJson?_toJson hTime hBody]

end Event

end StoryTrace
