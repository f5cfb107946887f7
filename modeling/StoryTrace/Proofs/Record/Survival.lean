import StoryTrace.Proofs.Event.Codec
import StoryTrace.Proofs.Json.Restated
import StoryTrace.Proofs.Time.Rfc3339

/-!
# Records read back

A record is written as an object whose members all have their own names, the status of a span among
them. What is written for a record is read as that record, and so is everything that restates it;
only an output that is null is then absent.
-/

namespace StoryTrace

open Json (Form Restates SameValue written nonNull? keeps_eq keeps_canonical keeps_restates)
open Json.Layout

/-- Records survive their own JSON form. They are written under distinct names, they are read back
from the written text, and they are read from every object that restates what was written, in
particular from one with other members or in another order. -/
structure Survives {α : Type} (form : Form) (write : α → Json) (read : Json → Option α)
    (Proper : α → Prop) (back : α → α) : Prop where
  apart : ∀ r, ∃ members, write r = .object members ∧ (members.map (·.1)).Nodup
  readBack : ∀ r, Proper r → (write r).Legible Json.maxDepth →
    (Json.parse? (write r).compress).bind read = some (back r)
  restated : ∀ v w, Restates form v w → read v = read w
  rearranged : ∀ members others : List (String × Json),
    (members.filter (·.1 ∈ form.map (·.1))).Perm (others.filter (·.1 ∈ form.map (·.1))) →
      read (.object members) = read (.object others)

namespace Json

theorem sublist_written (fields : List (String × Option Json)) :
    ((written fields).map (·.1)).Sublist (fields.map (·.1)) := by
  induction fields with
  | nil => exact .slnil
  | cons f fields ih =>
      obtain ⟨key, v⟩ := f
      cases v with
      | none => exact .cons key ih
      | some v => exact .cons_cons key ih

theorem filled_eq_given (key : String) (m : Metadata) :
    filled key m = given key (if m.isEmpty then none else some (.object m)) := by
  unfold filled
  split <;> rfl

end Json

section

variable {α : Type} {form : Form} {write : α → Json} {read : Json → Option α} {Proper : α → Prop}
  {back : α → α}

/-- It is enough that the fields have distinct names, that what was written is read, and that
restated values are read alike. -/
theorem Survives.of_fields {fields : α → List (String × Option Json)}
    (hWrite : ∀ r, write r = .object (written (fields r)))
    (hKeys : ∀ r, ((fields r).map (·.1)).Nodup)
    (hBack : ∀ r, Proper r → read (write r) = some (back r))
    (hRefl : ∀ f ∈ form, ∀ v, f.2 v v)
    (hSame : ∀ v w, Restates form v w → read v = read w) :
    Survives form write read Proper back where
  apart r := ⟨_, hWrite r, (hKeys r).sublist (Json.sublist_written _)⟩
  readBack r hProper hLegible := by
    rw [Json.parse?_compress hLegible, Option.bind_some, hBack r hProper]
  restated := hSame
  rearranged _ _ h := hSame _ _ (Json.restates_of_perm hRefl h)

end

theorem Json.Layout.metadata_of_slot? {l : Layout} {index : Nat} {key : String} {m : Metadata}
    (h : l.slot? index key = some (if m.isEmpty then none else some (.object m)))
    (hCanonical : (Json.object m).canonical = .object m) : l.metadata index key = some m := by
  rw [metadata, withDefault, h]
  cases m with
  | nil => rfl
  | cons e m => exact Json.metadata?_object hCanonical

theorem Instant.Dated.ofJson?_toJson {t : Instant} (h : t.Dated) : ofJson? t.toJson = some t :=
  Instant.ofJson?_toJson (Rfc3339.read?_text h)

namespace Trace

def form : Form :=
  [("id", Eq), ("session_id", Eq), ("name", Eq), ("metadata", SameValue), ("created_at", Eq),
    ("output", SameValue)]

def fields (t : Trace) : List (String × Option Json) :=
  [("id", some (.string t.id)), ("session_id", t.sessionId.map .string),
    ("name", some (.string t.name)),
    ("metadata", if t.metadata.isEmpty then none else some (.object t.metadata)),
    ("created_at", some t.createdAt.toJson), ("output", t.output)]

theorem toJson_eq (t : Trace) : t.toJson = .object (written t.fields) := by
  simp [toJson, written, fields, Json.given, Json.filled_eq_given]

/-- The free-form values are in canonical form, and the time has a date. -/
structure Proper (t : Trace) : Prop where
  metadata : (Json.object t.metadata).canonical = .object t.metadata
  createdAt : t.createdAt.Dated
  output : ∀ v ∈ t.output, v.canonical = v

def withoutNull (t : Trace) : Trace := { t with output := nonNull? t.output }

theorem ofJson?_toJson {t : Trace} (h : t.Proper) : ofJson? t.toJson = some t.withoutNull := by
  let l := named (written t.fields)
  have hSlot (place : Nat) {key : String} {v : Option Json}
      (hField : t.fields[place]? = some (key, v)) : l.slot? place key = some v :=
    slot?_written (by simp [fields]) hField
  have hId : l.required 0 "id" Json.string? = some t.id := required_of_slot? (hSlot 0 rfl) rfl
  have hSession : l.optional 1 "session_id" Json.string? = some t.sessionId :=
    optional_of_slot? (hSlot 1 rfl) fun _ _ => ⟨rfl, rfl⟩
  have hName : l.required 2 "name" Json.string? = some t.name :=
    required_of_slot? (hSlot 2 rfl) rfl
  have hMetadata : l.metadata 3 "metadata" = some t.metadata :=
    metadata_of_slot? (hSlot 3 rfl) h.metadata
  have hCreated : l.required 4 "created_at" Instant.ofJson? = some t.createdAt :=
    required_of_slot? (hSlot 4 rfl) h.createdAt.ofJson?_toJson
  have hOutput : l.optionalValue 5 "output" = some (nonNull? t.output) :=
    optionalValue_of_slot? (hSlot 5 rfl) h.output
  rw [toJson_eq, ofJson?]
  refine Option.bind_eq_some_iff.2 ⟨l, rfl, ?_⟩
  refine Option.bind_eq_some_iff.2 ⟨_, hId, ?_⟩
  refine Option.bind_eq_some_iff.2 ⟨_, hSession, ?_⟩
  refine Option.bind_eq_some_iff.2 ⟨_, hName, ?_⟩
  refine Option.bind_eq_some_iff.2 ⟨_, hMetadata, ?_⟩
  refine Option.bind_eq_some_iff.2 ⟨_, hCreated, ?_⟩
  refine Option.bind_eq_some_iff.2 ⟨_, hOutput, ?_⟩
  rfl

theorem ofJson?_eq_of_restates {v w : Json} (h : Restates form v w) : ofJson? v = ofJson? w := by
  obtain rfl | ⟨members, others, rfl, rfl, hSame⟩ := h
  · rfl
  simp only [form, List.forall_mem_cons] at hSame
  obtain ⟨hId, hSession, hName, hMetadata, hCreated, hOutput, -⟩ := hSame
  change ((named members).required 0 "id" Json.string?).bind _ =
    ((named others).required 0 "id" Json.string?).bind _
  refine Option.bind_congr' (required_eq hId (keeps_eq _)) fun _ _ => ?_
  refine Option.bind_congr' (optional_eq hSession (keeps_eq _)) fun _ _ => ?_
  refine Option.bind_congr' (required_eq hName (keeps_eq _)) fun _ _ => ?_
  refine Option.bind_congr' (metadata_eq hMetadata) fun _ _ => ?_
  refine Option.bind_congr' (required_eq hCreated (keeps_eq _)) fun _ _ => ?_
  refine Option.bind_congr' (optionalValue_eq hOutput) fun _ _ => ?_
  rfl

theorem survives : Survives form toJson ofJson? Proper withoutNull :=
  .of_fields toJson_eq (by simp [fields]) (fun _ => ofJson?_toJson) (by simp [form, SameValue])
    fun _ _ => ofJson?_eq_of_restates

end Trace

namespace TraceUpdate

def form : Form := [("trace_id", Eq), ("output", SameValue), ("metadata", SameValue)]

def fields (u : TraceUpdate) : List (String × Option Json) :=
  [("trace_id", some (.string u.traceId)), ("output", u.output),
    ("metadata", if u.metadata.isEmpty then none else some (.object u.metadata))]

theorem toJson_eq (u : TraceUpdate) : u.toJson = .object (written u.fields) := by
  simp [toJson, written, fields, Json.given, Json.filled_eq_given]

/-- The free-form values are in canonical form. -/
structure Proper (u : TraceUpdate) : Prop where
  output : ∀ v ∈ u.output, v.canonical = v
  metadata : (Json.object u.metadata).canonical = .object u.metadata

def withoutNull (u : TraceUpdate) : TraceUpdate := { u with output := nonNull? u.output }

theorem ofJson?_toJson {u : TraceUpdate} (h : u.Proper) :
    ofJson? u.toJson = some u.withoutNull := by
  let l := named (written u.fields)
  have hSlot (place : Nat) {key : String} {v : Option Json}
      (hField : u.fields[place]? = some (key, v)) : l.slot? place key = some v :=
    slot?_written (by simp [fields]) hField
  have hTraceId : l.required 0 "trace_id" Json.string? = some u.traceId :=
    required_of_slot? (hSlot 0 rfl) rfl
  have hOutput : l.optionalValue 1 "output" = some (nonNull? u.output) :=
    optionalValue_of_slot? (hSlot 1 rfl) h.output
  have hMetadata : l.metadata 2 "metadata" = some u.metadata :=
    metadata_of_slot? (hSlot 2 rfl) h.metadata
  rw [toJson_eq, ofJson?]
  refine Option.bind_eq_some_iff.2 ⟨l, rfl, ?_⟩
  refine Option.bind_eq_some_iff.2 ⟨_, hTraceId, ?_⟩
  refine Option.bind_eq_some_iff.2 ⟨_, hOutput, ?_⟩
  refine Option.bind_eq_some_iff.2 ⟨_, hMetadata, ?_⟩
  rfl

theorem ofJson?_eq_of_restates {v w : Json} (h : Restates form v w) : ofJson? v = ofJson? w := by
  obtain rfl | ⟨members, others, rfl, rfl, hSame⟩ := h
  · rfl
  simp only [form, List.forall_mem_cons] at hSame
  obtain ⟨hTraceId, hOutput, hMetadata, -⟩ := hSame
  change ((named members).required 0 "trace_id" Json.string?).bind _ =
    ((named others).required 0 "trace_id" Json.string?).bind _
  refine Option.bind_congr' (required_eq hTraceId (keeps_eq _)) fun _ _ => ?_
  refine Option.bind_congr' (optionalValue_eq hOutput) fun _ _ => ?_
  refine Option.bind_congr' (metadata_eq hMetadata) fun _ _ => ?_
  rfl

theorem survives : Survives form toJson ofJson? Proper withoutNull :=
  .of_fields toJson_eq (by simp [fields]) (fun _ => ofJson?_toJson) (by simp [form, SameValue])
    fun _ _ => ofJson?_eq_of_restates

end TraceUpdate

/-! ## Parts of spans -/

namespace Usage

def form : Form := [("promptTokens", Eq), ("completionTokens", Eq), ("totalTokens", Eq)]

theorem ofJson?_eq_of_restates {v w : Json} (h : Restates form v w) : ofJson? v = ofJson? w := by
  obtain rfl | ⟨members, others, rfl, rfl, hSame⟩ := h
  · rfl
  simp only [form, List.forall_mem_cons] at hSame
  obtain ⟨hPrompt, hCompletion, hTotal, -⟩ := hSame
  change ((named members).optional 0 "promptTokens" Json.nat?).bind _ =
    ((named others).optional 0 "promptTokens" Json.nat?).bind _
  refine Option.bind_congr' (optional_eq hPrompt (keeps_eq _)) fun _ _ => ?_
  refine Option.bind_congr' (optional_eq hCompletion (keeps_eq _)) fun _ _ => ?_
  refine Option.bind_congr' (optional_eq hTotal (keeps_eq _)) fun _ _ => ?_
  rfl

end Usage

namespace Status

def tag : Status → String
  | .running => "open"
  | .succeeded => "ok"
  | .failed _ _ => "error"

/-- The name of the kind of a failure. -/
def kind? : Status → Option String
  | .failed _ kind => kind
  | _ => none

def form : Form := [("status", Eq), ("message", Eq), ("kind", Eq)]

def fields (s : Status) : List (String × Option Json) :=
  [("status", some (.string s.tag)), ("message", s.message?.map .string),
    ("kind", s.kind?.map .string)]

theorem members_eq (s : Status) : s.members = written s.fields := by
  cases s <;> simp [members, written, fields, Json.given, tag, message?, kind?]

/-- The status is told by the fields that were written for it. -/
theorem ofMembers?_of_slots {s : Status} {l : Json.Layout}
    (h : ∀ f ∈ s.fields, l.slot? 0 f.1 = some f.2) : ofMembers? l = some s := by
  have hTag {t : Tag} (hName : Tag.names.lookup s.tag = some t) :
      l.required 0 "status" Tag.ofJson? = some t :=
    required_of_slot? (h ("status", some (.string s.tag)) (by simp [fields])) hName
  cases s with
  | running => simp [ofMembers?, hTag (t := .running) rfl]
  | succeeded => simp [ofMembers?, hTag (t := .succeeded) rfl]
  | failed message kind =>
      have hMessage : l.required 0 "message" Json.string? = some message :=
        required_of_slot? (h ("message", some (.string message)) (by simp [fields, message?])) rfl
      have hKind : l.optional 0 "kind" Json.string? = some kind :=
        optional_of_slot? (h ("kind", kind.map .string) (by simp [fields, kind?]))
          fun _ _ => ⟨rfl, rfl⟩
      simp [ofMembers?, hTag (t := .failed) rfl, hMessage, hKind]

theorem ofMembers?_eq {members others : List (String × Json)}
    (hSame : ∀ f ∈ form, Json.Matched f.2 (Json.under members f.1) (Json.under others f.1)) :
    ofMembers? (.named members) = ofMembers? (.named others) := by
  simp only [form, List.forall_mem_cons] at hSame
  obtain ⟨hTag, hMessage, hKind, -⟩ := hSame
  simp only [ofMembers?, required_eq hTag (keeps_eq _), required_eq hMessage (keeps_eq _),
    optional_eq hKind (keeps_eq _)]

end Status

namespace Span

def form : Form :=
  [("id", Eq), ("trace_id", Eq), ("parent_id", Eq), ("observation_type", Eq), ("name", Eq),
    ("input", SameValue), ("output", SameValue), ("metadata", SameValue), ("started_at", Eq),
    ("ended_at", Eq)] ++ Status.form ++ [("level", Eq), ("usage", Restates Usage.form)]

def fields (s : Span) : List (String × Option Json) :=
  [("id", some (.string s.id)), ("trace_id", some (.string s.traceId)),
    ("parent_id", s.parentId.map .string), ("observation_type", some s.type.toJson),
    ("name", some (.string s.name)), ("input", some s.input), ("output", s.output),
    ("metadata", if s.metadata.isEmpty then none else some (.object s.metadata)),
    ("started_at", some s.startedAt.toJson), ("ended_at", s.endedAt.map (·.toJson))] ++
      s.status.fields ++
      [("level", some s.level.toJson), ("usage", s.usage.map (·.toJson))]

theorem toJson_eq (s : Span) : s.toJson = .object (written s.fields) := by
  simp [toJson, members, Status.members_eq, written, fields, Json.given, Json.filled_eq_given]

/-- The free-form values are in canonical form, the times have dates, and counts have 64 bits. -/
structure Proper (s : Span) : Prop where
  input : s.input.canonical = s.input
  output : ∀ v ∈ s.output, v.canonical = v
  metadata : (Json.object s.metadata).canonical = .object s.metadata
  startedAt : s.startedAt.Dated
  endedAt : ∀ t ∈ s.endedAt, t.Dated
  usage : ∀ u ∈ s.usage, u.Portable

def withoutNull (s : Span) : Span := { s with output := nonNull? s.output }

theorem ofJson?_toJson {s : Span} (h : s.Proper) : ofJson? s.toJson = some s.withoutNull := by
  let l := named (written s.fields)
  have hSlot (place : Nat) {key : String} {v : Option Json}
      (hField : s.fields[place]? = some (key, v)) : l.slot? 0 key = some v :=
    slot?_written_of_mem (by simp [fields, Status.fields]) (List.mem_of_getElem? hField)
  have hId : l.required 0 "id" Json.string? = some s.id := required_of_slot? (hSlot 0 rfl) rfl
  have hTraceId : l.required 0 "trace_id" Json.string? = some s.traceId :=
    required_of_slot? (hSlot 1 rfl) rfl
  have hParent : l.optional 0 "parent_id" Json.string? = some s.parentId :=
    optional_of_slot? (hSlot 2 rfl) fun _ _ => ⟨rfl, rfl⟩
  have hType : l.withDefault 0 "observation_type" .span SpanType.ofJson? = some s.type :=
    withDefault_of_slot? (hSlot 3 rfl) (SpanType.ofJson?_toJson _)
  have hName : l.required 0 "name" Json.string? = some s.name :=
    required_of_slot? (hSlot 4 rfl) rfl
  have hInput : l.withDefault 0 "input" .null (fun v => some v.canonical) = some s.input :=
    withDefault_of_slot? (hSlot 5 rfl) (congrArg some h.input)
  have hOutput : l.optionalValue 0 "output" = some (nonNull? s.output) :=
    optionalValue_of_slot? (hSlot 6 rfl) h.output
  have hMetadata : l.metadata 0 "metadata" = some s.metadata :=
    metadata_of_slot? (hSlot 7 rfl) h.metadata
  have hStarted : l.required 0 "started_at" Instant.ofJson? = some s.startedAt :=
    required_of_slot? (hSlot 8 rfl) h.startedAt.ofJson?_toJson
  have hEnded : l.optional 0 "ended_at" Instant.ofJson? = some s.endedAt :=
    optional_of_slot? (hSlot 9 rfl) fun t ht => ⟨rfl, (h.endedAt t ht).ofJson?_toJson⟩
  have hStatus : Status.ofMembers? l = some s.status :=
    Status.ofMembers?_of_slots fun f hf =>
      slot?_written_of_mem (by simp [fields, Status.fields]) (by simp [fields, hf])
  have hLevel : l.withDefault 0 "level" .standard Level.ofJson? = some s.level :=
    withDefault_of_slot? (hSlot 13 rfl) (Level.ofJson?_toJson _)
  have hUsage : l.optional 0 "usage" Usage.ofJson? = some s.usage :=
    optional_of_slot? (hSlot 14 rfl) fun u hu => ⟨rfl, Usage.ofJson?_toJson (h.usage u hu)⟩
  rw [toJson_eq, ofJson?]
  refine Option.bind_eq_some_iff.2 ⟨l, rfl, ?_⟩
  refine Option.bind_eq_some_iff.2 ⟨_, hId, ?_⟩
  refine Option.bind_eq_some_iff.2 ⟨_, hTraceId, ?_⟩
  refine Option.bind_eq_some_iff.2 ⟨_, hParent, ?_⟩
  refine Option.bind_eq_some_iff.2 ⟨_, hType, ?_⟩
  refine Option.bind_eq_some_iff.2 ⟨_, hName, ?_⟩
  refine Option.bind_eq_some_iff.2 ⟨_, hInput, ?_⟩
  refine Option.bind_eq_some_iff.2 ⟨_, hOutput, ?_⟩
  refine Option.bind_eq_some_iff.2 ⟨_, hMetadata, ?_⟩
  refine Option.bind_eq_some_iff.2 ⟨_, hStarted, ?_⟩
  refine Option.bind_eq_some_iff.2 ⟨_, hEnded, ?_⟩
  refine Option.bind_eq_some_iff.2 ⟨_, hStatus, ?_⟩
  refine Option.bind_eq_some_iff.2 ⟨_, hLevel, ?_⟩
  refine Option.bind_eq_some_iff.2 ⟨_, hUsage, ?_⟩
  rfl

theorem ofJson?_eq_of_restates {v w : Json} (h : Restates form v w) : ofJson? v = ofJson? w := by
  obtain rfl | ⟨members, others, rfl, rfl, hSame⟩ := h
  · rfl
  have hStatus := Status.ofMembers?_eq fun f hf => hSame f (by simp [form, hf])
  simp only [form, Status.form, List.cons_append, List.nil_append, List.forall_mem_cons] at hSame
  obtain ⟨hId, hTraceId, hParent, hType, hName, hInput, hOutput, hMetadata, hStarted, hEnded, -, -,
    -, hLevel, hUsage, -⟩ := hSame
  change ((named members).required 0 "id" Json.string?).bind _ =
    ((named others).required 0 "id" Json.string?).bind _
  refine Option.bind_congr' (required_eq hId (keeps_eq _)) fun _ _ => ?_
  refine Option.bind_congr' (required_eq hTraceId (keeps_eq _)) fun _ _ => ?_
  refine Option.bind_congr' (optional_eq hParent (keeps_eq _)) fun _ _ => ?_
  refine Option.bind_congr' (withDefault_eq hType (keeps_eq _)) fun _ _ => ?_
  refine Option.bind_congr' (required_eq hName (keeps_eq _)) fun _ _ => ?_
  refine Option.bind_congr' (withDefault_eq hInput keeps_canonical) fun _ _ => ?_
  refine Option.bind_congr' (optionalValue_eq hOutput) fun _ _ => ?_
  refine Option.bind_congr' (metadata_eq hMetadata) fun _ _ => ?_
  refine Option.bind_congr' (required_eq hStarted (keeps_eq _)) fun _ _ => ?_
  refine Option.bind_congr' (optional_eq hEnded (keeps_eq _)) fun _ _ => ?_
  refine Option.bind_congr' hStatus fun _ _ => ?_
  refine Option.bind_congr' (withDefault_eq hLevel (keeps_eq _)) fun _ _ => ?_
  refine Option.bind_congr'
    (optional_eq hUsage (keeps_restates fun _ _ => Usage.ofJson?_eq_of_restates)) fun _ _ => ?_
  rfl

theorem survives : Survives form toJson ofJson? Proper withoutNull :=
  .of_fields toJson_eq (by simp [fields, Status.fields]) (fun _ => ofJson?_toJson)
    (by simp [form, Status.form, SameValue, Restates]) fun _ _ => ofJson?_eq_of_restates

end Span

namespace Closure

def form : Form :=
  [("span_id", Eq), ("trace_id", Eq), ("observation_type", Eq), ("output", SameValue)] ++
    Status.form ++ [("level", Eq), ("usage", Restates Usage.form), ("ended_at", Eq)]

def fields (c : Closure) : List (String × Option Json) :=
  [("span_id", some (.string c.spanId)), ("trace_id", some (.string c.traceId)),
    ("observation_type", some c.type.toJson), ("output", c.output)] ++ c.status.fields ++
      [("level", some c.level.toJson), ("usage", c.usage.map (·.toJson)),
        ("ended_at", some c.endedAt.toJson)]

theorem toJson_eq (c : Closure) : c.toJson = .object (written c.fields) := by
  simp [toJson, Status.members_eq, written, fields, Json.given]

/-- The output is in canonical form, the time has a date, and counts have 64 bits. -/
structure Proper (c : Closure) : Prop where
  output : ∀ v ∈ c.output, v.canonical = v
  usage : ∀ u ∈ c.usage, u.Portable
  endedAt : c.endedAt.Dated

def withoutNull (c : Closure) : Closure := { c with output := nonNull? c.output }

theorem ofJson?_toJson {c : Closure} (h : c.Proper) : ofJson? c.toJson = some c.withoutNull := by
  let l := named (written c.fields)
  have hSlot (place : Nat) {key : String} {v : Option Json}
      (hField : c.fields[place]? = some (key, v)) : l.slot? 0 key = some v :=
    slot?_written_of_mem (by simp [fields, Status.fields]) (List.mem_of_getElem? hField)
  have hSpanId : l.required 0 "span_id" Json.string? = some c.spanId :=
    required_of_slot? (hSlot 0 rfl) rfl
  have hTraceId : l.required 0 "trace_id" Json.string? = some c.traceId :=
    required_of_slot? (hSlot 1 rfl) rfl
  have hType : l.withDefault 0 "observation_type" .span SpanType.ofJson? = some c.type :=
    withDefault_of_slot? (hSlot 2 rfl) (SpanType.ofJson?_toJson _)
  have hOutput : l.optionalValue 0 "output" = some (nonNull? c.output) :=
    optionalValue_of_slot? (hSlot 3 rfl) h.output
  have hStatus : Status.ofMembers? l = some c.status :=
    Status.ofMembers?_of_slots fun f hf =>
      slot?_written_of_mem (by simp [fields, Status.fields]) (by simp [fields, hf])
  have hLevel : l.withDefault 0 "level" .standard Level.ofJson? = some c.level :=
    withDefault_of_slot? (hSlot 7 rfl) (Level.ofJson?_toJson _)
  have hUsage : l.optional 0 "usage" Usage.ofJson? = some c.usage :=
    optional_of_slot? (hSlot 8 rfl) fun u hu => ⟨rfl, Usage.ofJson?_toJson (h.usage u hu)⟩
  have hEnded : l.required 0 "ended_at" Instant.ofJson? = some c.endedAt :=
    required_of_slot? (hSlot 9 rfl) h.endedAt.ofJson?_toJson
  rw [toJson_eq, ofJson?]
  refine Option.bind_eq_some_iff.2 ⟨l, rfl, ?_⟩
  refine Option.bind_eq_some_iff.2 ⟨_, hSpanId, ?_⟩
  refine Option.bind_eq_some_iff.2 ⟨_, hTraceId, ?_⟩
  refine Option.bind_eq_some_iff.2 ⟨_, hType, ?_⟩
  refine Option.bind_eq_some_iff.2 ⟨_, hOutput, ?_⟩
  refine Option.bind_eq_some_iff.2 ⟨_, hStatus, ?_⟩
  refine Option.bind_eq_some_iff.2 ⟨_, hLevel, ?_⟩
  refine Option.bind_eq_some_iff.2 ⟨_, hUsage, ?_⟩
  refine Option.bind_eq_some_iff.2 ⟨_, hEnded, ?_⟩
  rfl

theorem ofJson?_eq_of_restates {v w : Json} (h : Restates form v w) : ofJson? v = ofJson? w := by
  obtain rfl | ⟨members, others, rfl, rfl, hSame⟩ := h
  · rfl
  have hStatus := Status.ofMembers?_eq fun f hf => hSame f (by simp [form, hf])
  simp only [form, Status.form, List.cons_append, List.nil_append, List.forall_mem_cons] at hSame
  obtain ⟨hSpanId, hTraceId, hType, hOutput, -, -, -, hLevel, hUsage, hEnded, -⟩ := hSame
  change ((named members).required 0 "span_id" Json.string?).bind _ =
    ((named others).required 0 "span_id" Json.string?).bind _
  refine Option.bind_congr' (required_eq hSpanId (keeps_eq _)) fun _ _ => ?_
  refine Option.bind_congr' (required_eq hTraceId (keeps_eq _)) fun _ _ => ?_
  refine Option.bind_congr' (withDefault_eq hType (keeps_eq _)) fun _ _ => ?_
  refine Option.bind_congr' (optionalValue_eq hOutput) fun _ _ => ?_
  refine Option.bind_congr' hStatus fun _ _ => ?_
  refine Option.bind_congr' (withDefault_eq hLevel (keeps_eq _)) fun _ _ => ?_
  refine Option.bind_congr'
    (optional_eq hUsage (keeps_restates fun _ _ => Usage.ofJson?_eq_of_restates)) fun _ _ => ?_
  refine Option.bind_congr' (required_eq hEnded (keeps_eq _)) fun _ _ => ?_
  rfl

theorem survives : Survives form toJson ofJson? Proper withoutNull :=
  .of_fields toJson_eq (by simp [fields, Status.fields]) (fun _ => ofJson?_toJson)
    (by simp [form, Status.form, SameValue, Restates]) fun _ _ => ofJson?_eq_of_restates

end Closure

end StoryTrace
