import StoryTrace.Json.Layout
import StoryTrace.Record.Basic
import StoryTrace.Record.Codec
import StoryTrace.Story.Kind

/-!
# Story spans

A span that means something for a story: its kind, and the beat, the characters, the tone and the
universe it is about. The metadata of a recorded span say all of this, so a story span can be read
back from a record.
-/

namespace StoryTrace

structure StorySpan where
  id : String
  traceId : String
  kind : StoryKind
  storyId : String
  sessionId : Option String
  beatId : Option String
  characterIds : List String
  emotionalTone : Option String
  themeKeywords : List String
  leadUniverse : Option String
  universeCoherence : Option Float
  input : Metadata
  output : Metadata
  startTime : Instant
  endTime : Option Instant
  durationMs : Option Float
  metadata : Metadata
  parentId : Option String
  success : Bool
  error : Option String

/-- The name of an event, followed by what it is about. -/
def StoryKind.nameWith (k : StoryKind) (context : Option String) : String :=
  match context with
  | some context => k.displayName ++ " (" ++ context ++ ")"
  | none => k.displayName

namespace StorySpan

/-- An open span that nothing more is known of. -/
def new (id traceId : String) (kind : StoryKind) (storyId : String) (now : Instant) : StorySpan :=
  { id, traceId, kind, storyId
    sessionId := none
    beatId := none
    characterIds := []
    emotionalTone := none
    themeKeywords := []
    leadUniverse := none
    universeCoherence := none
    input := []
    output := []
    startTime := now
    endTime := none
    durationMs := none
    metadata := []
    parentId := none
    success := true
    error := none }

/-- The name of the span with its beat, or else its universe, or else its tone. -/
def displayName (s : StorySpan) : String :=
  s.kind.nameWith (s.beatId.orElse fun _ => s.leadUniverse.orElse fun _ => s.emotionalTone)

/-- The span ended at the given time. -/
def finish (s : StorySpan) (now : Instant) : StorySpan :=
  { s with durationMs := some (s.startTime.millisFloat now), endTime := some now }

/-- The span ended with an error. -/
def fail (s : StorySpan) (message : String) (now : Instant) : StorySpan :=
  { s with success := false, error := some message }.finish now

def textOf? (m : Metadata) (key : String) : Option String := (m.get? key).bind Json.string?

/-- The characters that metadata name, in a list or else alone. -/
def charactersOf (m : Metadata) : List String :=
  match ((m.get? "character_ids").bind Json.array?).map (·.filterMap Json.string?) with
  | some (id :: rest) => id :: rest
  | _ => (textOf? m "character_id").toList

/-- The members of a value, as far as it is an object. -/
def objectOf : Json → Metadata
  | .object members => members
  | _ => []

/-- The story span that a record tells of, if its metadata name a kind. -/
def ofRecord? (s : Span) : Option StorySpan := do
  let kind ← (textOf? s.metadata "event_type").bind StoryKind.ofText?
  return {
    id := s.id
    traceId := s.traceId
    kind
    storyId := (textOf? s.metadata "story_id").getD ""
    sessionId := none
    beatId := textOf? s.metadata "beat_id"
    characterIds := charactersOf s.metadata
    emotionalTone := textOf? s.metadata "emotional_tone"
    themeKeywords := []
    leadUniverse := textOf? s.metadata "lead_universe"
    universeCoherence := (s.metadata.get? "coherence_score").bind Json.float?
    input := objectOf s.input
    output := (s.output.map objectOf).getD []
    startTime := s.startedAt
    endTime := s.endedAt
    durationMs := s.duration?.map Float.ofNat
    metadata := s.metadata
    parentId := s.parentId
    success := !s.status.isFailed
    error := s.status.message? }

theorem startTime_of_ofRecord? {record : Span} {told : StorySpan}
    (h : ofRecord? record = some told) : told.startTime = record.startedAt := by
  obtain ⟨kind, -, hRest⟩ := Option.bind_eq_some_iff.1 h
  exact congrArg StorySpan.startTime (Option.some.inj hRest).symm

def toJson (s : StorySpan) : Json :=
  .object [("span_id", .string s.id), ("trace_id", .string s.traceId),
    ("event_type", .string s.kind.text), ("story_id", .string s.storyId),
    ("session_id", .ofOption .string s.sessionId), ("beat_id", .ofOption .string s.beatId),
    ("character_ids", .ofStrings s.characterIds),
    ("emotional_tone", .ofOption .string s.emotionalTone),
    ("theme_keywords", .ofStrings s.themeKeywords),
    ("lead_universe", .ofOption .string s.leadUniverse),
    ("universe_coherence", .ofOption .ofFloat s.universeCoherence),
    ("input_data", .object s.input), ("output_data", .object s.output),
    ("start_time", s.startTime.toJson), ("end_time", .ofOption Instant.toJson s.endTime),
    ("duration_ms", .ofOption .ofFloat s.durationMs), ("metadata", .object s.metadata),
    ("parent_span_id", .ofOption .string s.parentId), ("success", .bool s.success),
    ("error", .ofOption .string s.error)]

def ofJson? (v : Json) : Option StorySpan := do
  let l ← Json.Layout.of? 19 20 v
  let id ← l.required 0 "span_id" Json.string?
  let traceId ← l.required 1 "trace_id" Json.string?
  let kind ← l.required 2 "event_type" (Json.choice? StoryKind.names)
  let storyId ← l.required 3 "story_id" Json.string?
  let sessionId ← l.optional 4 "session_id" Json.string?
  let beatId ← l.optional 5 "beat_id" Json.string?
  let characterIds ← l.withDefault 6 "character_ids" [] Json.strings?
  let emotionalTone ← l.optional 7 "emotional_tone" Json.string?
  let themeKeywords ← l.withDefault 8 "theme_keywords" [] Json.strings?
  let leadUniverse ← l.optional 9 "lead_universe" Json.string?
  let universeCoherence ← l.optional 10 "universe_coherence" Json.float?
  let input ← l.metadata 11 "input_data"
  let output ← l.metadata 12 "output_data"
  let startTime ← l.required 13 "start_time" Instant.ofJson?
  let endTime ← l.optional 14 "end_time" Instant.ofJson?
  let durationMs ← l.optional 15 "duration_ms" Json.float?
  let metadata ← l.metadata 16 "metadata"
  let parentId ← l.optional 17 "parent_span_id" Json.string?
  let success ← l.required 18 "success" Json.bool?
  let error ← l.optional 19 "error" Json.string?
  return { id, traceId, kind, storyId, sessionId, beatId, characterIds, emotionalTone,
           themeKeywords, leadUniverse, universeCoherence, input, output, startTime, endTime,
           durationMs, metadata, parentId, success, error }

end StorySpan

end StoryTrace
