import StoryTrace.Event.Codec
import StoryTrace.Proofs.Json.Members
import StoryTrace.Store.Replay

/-!
# Which bodies an event may have

The body of an event is read field by field. It is the body of a span when it has the ids of a span
and of its trace and all optional fields of a span can be read, and otherwise the body of a trace
when it has an id and all optional fields of a trace can be read. One field that cannot be read
turns the body of a span into that of a trace, which an event about spans ignores.
-/

namespace StoryTrace

open Json

/-! ## Values that a field allows -/

namespace Json

def IsText (v : Json) : Prop := ∃ s, v = .string s

def IsTime (v : Json) : Prop := ∃ s t, v = .string s ∧ Rfc3339.read? s = some t

def IsObject (v : Json) : Prop := ∃ members, v = .object members

def IsCount (v : Json) : Prop := ∃ n, n < UInt64.size ∧ v = .ofNat n

/-- A level is its name, or an object from its name to null. -/
def IsLevel (v : Json) : Prop :=
  ∃ l : Level, v = .string l.text ∨ v = .object [(l.text, .null)]

/-- Usage is an object of counts or a list of them; each may be missing or null. -/
def IsUsage (v : Json) : Prop :=
  (∃ members, v = .object members ∧
    ∀ key ∈ ["promptTokens", "completionTokens", "totalTokens"], MayGive members key IsCount) ∨
  ∃ items, v = .array items ∧ items.length ≤ 3 ∧ ∀ x ∈ items, x = .null ∨ IsCount x

theorem isSome_string?_iff {v : Json} : v.string?.isSome = true ↔ IsText v := by
  cases v <;> simp [string?, IsText]

theorem isSome_metadata?_iff {v : Json} : v.metadata?.isSome = true ↔ IsObject v := by
  cases v <;> simp [metadata?, IsObject]

theorem isSome_nat?_iff {v : Json} : v.nat?.isSome = true ↔ IsCount v := by
  constructor
  · intro h
    match v with
    | .number (.int n) =>
        simp only [nat?, natBelow?] at h
        split at h
        case isTrue hBound =>
          refine ⟨n.toNat, by omega, ?_⟩
          rw [ofNat, Int.ofNat_eq_natCast, Int.toNat_of_nonneg hBound.1]
        case isFalse => cases h
  · rintro ⟨n, hBound, rfl⟩
    rw [nat?_ofNat hBound]
    rfl

end Json

theorem Instant.isSome_ofJson?_iff {v : Json} :
    (Instant.ofJson? v).isSome = true ↔ IsTime v := by
  cases v <;> simp [ofJson?, string?, IsTime, Option.isSome_iff_exists]

theorem Level.mem_names_iff {s : String} {l : Level} : (s, l) ∈ names ↔ s = l.text := by
  cases l <;> simp [names, text]

theorem Level.isSome_ofJson?_iff {v : Json} : (Level.ofJson? v).isSome = true ↔ IsLevel v := by
  rw [ofJson?, choice?.eq_def, IsLevel]
  split
  case h_1 s => simp [mem_names_iff]
  case h_2 s => simp [mem_names_iff]
  case h_3 hString hObject =>
    constructor
    · nofun
    · rintro ⟨l, rfl | rfl⟩
      · exact absurd rfl (hString _)
      · exact absurd rfl (hObject _)

/-- A reader that goes on whatever it finds reads when each of its parts does. -/
theorem isSome_bind_iff {α β : Type} {x : Option α} {next : α → Option β} {p : Prop}
    (h : ∀ a, (next a).isSome = true ↔ p) :
    (x.bind next).isSome = true ↔ x.isSome = true ∧ p := by
  cases x with
  | none => simp
  | some a => simp [h a]

theorem isSome_pure_iff {α : Type} {a : α} : (pure a : Option α).isSome = true ↔ True := by
  simp

/-! ## Usage -/

theorem Json.Layout.isSome_optional_listed_iff {α : Type} {items : List Json} {index : Nat}
    {key : String} {read : Json → Option α} :
    ((Layout.listed items).optional index key read).isSome = true ↔
      ∀ x ∈ items[index]?, x = .null ∨ (read x).isSome = true := by
  rw [optional, withDefault, slot?]
  cases items[index]? with
  | none => simp
  | some x => by_cases hNull : x.isNull = true <;> simp [hNull, ← isNull_iff]

theorem Usage.isSome_ofJson?_iff {v : Json} : (Usage.ofJson? v).isSome = true ↔ IsUsage v := by
  have hParts (l : Layout) :
      (do
        let prompt ← l.optional 0 "promptTokens" Json.nat?
        let completion ← l.optional 1 "completionTokens" Json.nat?
        let total ← l.optional 2 "totalTokens" Json.nat?
        return (⟨prompt, completion, total⟩ : Usage)).isSome = true ↔
      (l.optional 0 "promptTokens" Json.nat?).isSome = true ∧
        (l.optional 1 "completionTokens" Json.nat?).isSome = true ∧
          (l.optional 2 "totalTokens" Json.nat?).isSome = true ∧ True :=
    isSome_bind_iff fun _ => isSome_bind_iff fun _ => isSome_bind_iff fun _ => isSome_pure_iff
  rw [ofJson?, IsUsage]
  match v with
  | .object members =>
      rw [Layout.of?, Option.bind_eq_bind, Option.bind_some, hParts]
      simp only [Layout.isSome_optional_iff, isSome_nat?_iff]
      simp
  | .array items =>
      rw [Layout.of?, Option.bind_eq_bind]
      split
      case isTrue hLength =>
        rw [Option.bind_some, hParts]
        simp only [Layout.isSome_optional_listed_iff, isSome_nat?_iff]
        match items with
        | [] | [_] | [_, _] | [_, _, _] => simp
        | _ :: _ :: _ :: _ :: _ =>
            simp only [List.length_cons] at hLength
            omega
      case isFalse hLength =>
        have hLong : ¬ items.length ≤ 3 := fun h => hLength ⟨Nat.zero_le _, h⟩
        simp [hLong]
  | .null | .bool _ | .number _ | .string _ => simp [Layout.of?]

/-! ## The two bodies -/

namespace SpanBody

/-- The optional fields of the body of a span, with the values that they allow besides null. -/
def optionalFields : List (String × (Json → Prop)) :=
  [("parentObservationId", IsText), ("name", IsText), ("startTime", IsTime), ("endTime", IsTime),
    ("input", fun _ => True), ("output", fun _ => True), ("metadata", IsObject),
    ("level", IsLevel), ("statusMessage", IsText), ("usage", IsUsage)]

def names : List String := "id" :: "traceId" :: optionalFields.map (·.1)

/-- The members of an object say all that the body of a span needs. -/
structure Readable (members : List (String × Json)) : Prop where
  id : Gives members "id" IsText
  traceId : Gives members "traceId" IsText
  fields : ∀ f ∈ optionalFields, MayGive members f.1 f.2

theorem isSome_ofJson?_iff {members : List (String × Json)} :
    (ofJson? (.object members)).isSome = true ↔ Readable members := by
  rw [ofJson?, Layout.of?, Option.bind_eq_bind, Option.bind_some]
  refine (isSome_bind_iff fun _ => isSome_bind_iff fun _ => isSome_bind_iff fun _ =>
    isSome_bind_iff fun _ => isSome_bind_iff fun _ => isSome_bind_iff fun _ =>
    isSome_bind_iff fun _ => isSome_bind_iff fun _ => isSome_bind_iff fun _ =>
    isSome_bind_iff fun _ => isSome_bind_iff fun _ => isSome_bind_iff fun _ =>
    isSome_pure_iff).trans ?_
  simp only [Layout.isSome_required_iff, Layout.isSome_optional_iff,
    Layout.isSome_optionalValue_iff, isSome_string?_iff, Instant.isSome_ofJson?_iff,
    isSome_metadata?_iff, Level.isSome_ofJson?_iff, Usage.isSome_ofJson?_iff]
  constructor
  · rintro ⟨hId, hTrace, hFields⟩
    exact ⟨hId, hTrace, by simpa [optionalFields] using hFields⟩
  · rintro ⟨hId, hTrace, hFields⟩
    exact ⟨hId, hTrace, by simpa [optionalFields] using hFields⟩

end SpanBody

namespace TraceBody

/-- The optional fields of the body of a trace, with the values that they allow besides null. -/
def optionalFields : List (String × (Json → Prop)) :=
  [("name", IsText), ("sessionId", IsText), ("metadata", IsObject), ("output", fun _ => True),
    ("timestamp", IsTime)]

def names : List String := "id" :: optionalFields.map (·.1)

/-- The members of an object say all that the body of a trace needs. -/
structure Readable (members : List (String × Json)) : Prop where
  id : Gives members "id" IsText
  fields : ∀ f ∈ optionalFields, MayGive members f.1 f.2

theorem isSome_ofJson?_iff {members : List (String × Json)} :
    (ofJson? (.object members)).isSome = true ↔ Readable members := by
  rw [ofJson?, Layout.of?, Option.bind_eq_bind, Option.bind_some]
  refine (isSome_bind_iff fun _ => isSome_bind_iff fun _ => isSome_bind_iff fun _ =>
    isSome_bind_iff fun _ => isSome_bind_iff fun _ => isSome_bind_iff fun _ =>
    isSome_pure_iff).trans ?_
  simp only [Layout.isSome_required_iff, Layout.isSome_optional_iff,
    Layout.isSome_optionalValue_iff, isSome_string?_iff, Instant.isSome_ofJson?_iff,
    isSome_metadata?_iff]
  constructor
  · rintro ⟨hId, hFields⟩
    exact ⟨hId, by simpa [optionalFields] using hFields⟩
  · rintro ⟨hId, hFields⟩
    exact ⟨hId, by simpa [optionalFields] using hFields⟩

end TraceBody

namespace EventBody

/-- The names that the body of a span or of a trace knows. -/
def names : List String := SpanBody.names ++ TraceBody.names

/-- Only members of known names count, in whatever order they stand. -/
theorem ofJson?_eq_of_perm {members others : List (String × Json)}
    (h : (members.filter (·.1 ∈ names)).Perm (others.filter (·.1 ∈ names))) :
    ofJson? (.object members) = ofJson? (.object others) := by
  have hKnown : ∀ key ∈ names, Matched Eq (under members key) (under others key) :=
    fun key hKey => matched_of_perm (fun _ => rfl) (under_perm hKey h)
  simp only [names, SpanBody.names, SpanBody.optionalFields, TraceBody.names,
    TraceBody.optionalFields, List.map_cons, List.map_nil, List.cons_append, List.nil_append,
    List.forall_mem_cons] at hKnown
  obtain ⟨hId, hTraceId, hParent, hName, hStart, hEnd, hInput, hOutput, hMetadata, hLevel, hMessage,
    hUsage, -, -, hSession, -, -, hTime, -⟩ := hKnown
  have hSpan : SpanBody.ofJson? (.object members) = SpanBody.ofJson? (.object others) := by
    change ((Layout.named members).required 0 "id" Json.string?).bind _ =
      ((Layout.named others).required 0 "id" Json.string?).bind _
    refine Option.bind_congr' (Layout.required_eq hId (keeps_eq _)) fun _ _ => ?_
    refine Option.bind_congr' (Layout.required_eq hTraceId (keeps_eq _)) fun _ _ => ?_
    refine Option.bind_congr' (Layout.optional_eq hParent (keeps_eq _)) fun _ _ => ?_
    refine Option.bind_congr' (Layout.optional_eq hName (keeps_eq _)) fun _ _ => ?_
    refine Option.bind_congr' (Layout.optional_eq hStart (keeps_eq _)) fun _ _ => ?_
    refine Option.bind_congr' (Layout.optional_eq hEnd (keeps_eq _)) fun _ _ => ?_
    refine Option.bind_congr' (Layout.optional_eq hInput (keeps_eq _)) fun _ _ => ?_
    refine Option.bind_congr' (Layout.optional_eq hOutput (keeps_eq _)) fun _ _ => ?_
    refine Option.bind_congr' (Layout.optional_eq hMetadata (keeps_eq _)) fun _ _ => ?_
    refine Option.bind_congr' (Layout.optional_eq hLevel (keeps_eq _)) fun _ _ => ?_
    refine Option.bind_congr' (Layout.optional_eq hMessage (keeps_eq _)) fun _ _ => ?_
    refine Option.bind_congr' (Layout.optional_eq hUsage (keeps_eq _)) fun _ _ => ?_
    rfl
  have hTrace : TraceBody.ofJson? (.object members) = TraceBody.ofJson? (.object others) := by
    change ((Layout.named members).required 0 "id" Json.string?).bind _ =
      ((Layout.named others).required 0 "id" Json.string?).bind _
    refine Option.bind_congr' (Layout.required_eq hId (keeps_eq _)) fun _ _ => ?_
    refine Option.bind_congr' (Layout.optional_eq hName (keeps_eq _)) fun _ _ => ?_
    refine Option.bind_congr' (Layout.optional_eq hSession (keeps_eq _)) fun _ _ => ?_
    refine Option.bind_congr' (Layout.optional_eq hMetadata (keeps_eq _)) fun _ _ => ?_
    refine Option.bind_congr' (Layout.optional_eq hOutput (keeps_eq _)) fun _ _ => ?_
    refine Option.bind_congr' (Layout.optional_eq hTime (keeps_eq _)) fun _ _ => ?_
    rfl
  rw [ofJson?, ofJson?, hSpan, hTrace]

variable {v : Json}

theorem ofJson?_eq_span_iff {b : SpanBody} :
    ofJson? v = some (.span b) ↔ SpanBody.ofJson? v = some b := by
  rw [ofJson?]
  cases SpanBody.ofJson? v <;> simp

theorem ofJson?_eq_trace_iff {b : TraceBody} :
    ofJson? v = some (.trace b) ↔ SpanBody.ofJson? v = none ∧ TraceBody.ofJson? v = some b := by
  rw [ofJson?]
  cases SpanBody.ofJson? v <;> simp

theorem ofJson?_eq_none_iff :
    ofJson? v = none ↔ SpanBody.ofJson? v = none ∧ TraceBody.ofJson? v = none := by
  rw [ofJson?]
  cases SpanBody.ofJson? v <;> simp

end EventBody

/-! ## Events and their replay -/

/-- An event is about a trace when it has the body of one, and about spans otherwise. -/
def Event.Fits (e : Event) : Prop :=
  match e.body with
  | .trace _ => e.kind = .traceCreate
  | .span _ => e.kind ≠ .traceCreate

/-- An event whose body does not fit its kind changes nothing. -/
theorem Store.replayEvent_of_not_fits {e : Event} (h : ¬ e.Fits) (now : Instant) (s : Store) :
    s.replayEvent now e = s := by
  obtain ⟨id, time, kind, body⟩ := e
  cases body with
  | trace b => cases kind <;> first | rfl | exact absurd rfl h
  | span b => cases kind <;> first | rfl | exact absurd nofun h

namespace Event

/-- The value has all that an event needs around a body: an id, a time and a kind. -/
def Encloses (v body : Json) (id : String) (time : Instant) (kind : EventKind) : Prop :=
  ∃ l, Layout.of? 4 4 v = some l ∧ l.required 0 "id" Json.string? = some id ∧
    l.required 1 "timestamp" Instant.ofJson? = some time ∧
    l.required 2 "type" EventKind.ofJson? = some kind ∧ l.slot? 3 "body" = some (some body)

variable {v body : Json} {id : String} {time : Instant} {kind : EventKind}

theorem Encloses.ofJson?_eq (h : Encloses v body id time kind) :
    ofJson? v = (EventBody.ofJson? body).map fun b => ⟨id, time, kind, b⟩ := by
  obtain ⟨l, hLayout, hId, hTime, hKind, hBody⟩ := h
  have hRead : l.required 3 "body" EventBody.ofJson? = EventBody.ofJson? body := by
    rw [Layout.required, hBody]
    rfl
  simp only [ofJson?, hLayout, hId, hTime, hKind, hRead, Option.bind_eq_bind, Option.bind_some]
  cases EventBody.ofJson? body <;> rfl

theorem Encloses.ofJson?_eq_some_iff (h : Encloses v body id time kind) {b : EventBody} :
    ofJson? v = some ⟨id, time, kind, b⟩ ↔ EventBody.ofJson? body = some b := by
  rw [h.ofJson?_eq]
  cases EventBody.ofJson? body <;> simp

variable {members : List (String × Json)}

/-- Around the members of an object, an event is read with the body of a span exactly when they
give one, else with the body of a trace exactly when they give that, and else not at all. Members of
other names and the order of the members never matter. An event that was read changes a store only
if its kind is the creation of a trace and its body that of a trace, or neither. -/
theorem body_told_by_members (h : Encloses v (.object members) id time kind) :
    ((∃ b, ofJson? v = some ⟨id, time, kind, .span b⟩) ↔ SpanBody.Readable members) ∧
      ((∃ b, ofJson? v = some ⟨id, time, kind, .trace b⟩) ↔
        ¬ SpanBody.Readable members ∧ TraceBody.Readable members) ∧
      (ofJson? v = none ↔ ¬ SpanBody.Readable members ∧ ¬ TraceBody.Readable members) ∧
      (∀ w others, Encloses w (.object others) id time kind →
        (members.filter (·.1 ∈ EventBody.names)).Perm (others.filter (·.1 ∈ EventBody.names)) →
        ofJson? w = ofJson? v) ∧
      ∀ e, ofJson? v = some e → (kind = .traceCreate ↔ SpanBody.Readable members) →
        ∀ now s, Store.replayEvent now s e = s := by
  have hSpan : (∃ b, ofJson? v = some ⟨id, time, kind, .span b⟩) ↔ SpanBody.Readable members := by
    simp only [h.ofJson?_eq_some_iff, EventBody.ofJson?_eq_span_iff]
    rw [← Option.isSome_iff_exists, SpanBody.isSome_ofJson?_iff]
  have hNoSpan : SpanBody.ofJson? (.object members) = none ↔ ¬ SpanBody.Readable members := by
    rw [← SpanBody.isSome_ofJson?_iff, Option.not_isSome_iff_eq_none]
  have hNoTrace : TraceBody.ofJson? (.object members) = none ↔ ¬ TraceBody.Readable members := by
    rw [← TraceBody.isSome_ofJson?_iff, Option.not_isSome_iff_eq_none]
  refine ⟨hSpan, ?trace, ?rejected, ?others, ?replay⟩
  case trace =>
    simp only [h.ofJson?_eq_some_iff, EventBody.ofJson?_eq_trace_iff, hNoSpan]
    rw [exists_and_left, ← Option.isSome_iff_exists, TraceBody.isSome_ofJson?_iff]
  case rejected =>
    rw [h.ofJson?_eq, Option.map_eq_none_iff, EventBody.ofJson?_eq_none_iff, hNoSpan, hNoTrace]
  case others =>
    intro w others hOthers hSame
    rw [h.ofJson?_eq, hOthers.ofJson?_eq, EventBody.ofJson?_eq_of_perm hSame]
  case replay =>
    intro e he hKind
    refine Store.replayEvent_of_not_fits ?_
    rw [h.ofJson?_eq] at he
    obtain ⟨body, hBody, rfl⟩ := Option.map_eq_some_iff.1 he
    cases body with
    | span b =>
        have hReadable : SpanBody.Readable members :=
          hSpan.1 ⟨b, h.ofJson?_eq_some_iff.2 hBody⟩
        exact fun hFits => hFits (hKind.2 hReadable)
    | trace b =>
        have hUnreadable : ¬ SpanBody.Readable members :=
          hNoSpan.1 (EventBody.ofJson?_eq_trace_iff.1 hBody).1
        exact fun hFits => hUnreadable (hKind.1 hFits)

/-- A span is created with a level that does not exist. -/
def loudMembers : List (String × Json) :=
  [("mood", .null), ("traceId", .string "t1"), ("id", .string "s1"), ("level", .string "LOUD")]

def loudEvent : Json :=
  .object [("id", .string "e1"), ("timestamp", .string "2023-05-01T10:00:00Z"),
    ("type", .string "span-create"), ("body", .object loudMembers)]

theorem encloses_loudEvent :
    Encloses loudEvent (.object loudMembers) "e1" ⟨1682935200, 0⟩ .spanCreate :=
  ⟨.named _, rfl, rfl, by rfl, rfl, rfl⟩

theorem not_readable_loudMembers : ¬ SpanBody.Readable loudMembers := by
  intro h
  have hLevel : MayGive loudMembers "level" IsLevel :=
    h.fields ("level", IsLevel) (by simp [SpanBody.optionalFields])
  have hUnder : under loudMembers "level" = [.string "LOUD"] := by simp [under, loudMembers]
  rw [MayGive, Gives, hUnder] at hLevel
  obtain hNone | ⟨_, ⟨⟩, hNull | ⟨l, hName | hObject⟩⟩ := hLevel
  · cases hNone
  · cases hNull
  · cases l <;> simp [Level.text] at hName
  · cases hObject

theorem body_told_by_members_loudEvent :
    (∃ b, ofJson? loudEvent = some ⟨"e1", ⟨1682935200, 0⟩, .spanCreate, .trace b⟩) ∧
      ∀ e, ofJson? loudEvent = some e → ∀ now s, Store.replayEvent now s e = s := by
  obtain ⟨-, hTrace, -, -, hReplay⟩ := body_told_by_members encloses_loudEvent
  have hReadable : TraceBody.Readable loudMembers :=
    TraceBody.isSome_ofJson?_iff.1 rfl
  refine ⟨hTrace.2 ⟨not_readable_loudMembers, hReadable⟩, fun e he => hReplay e he ?_⟩
  simp [not_readable_loudMembers]

end Event

end StoryTrace
