import StoryTrace.Proofs.Table
import StoryTrace.Story.Completed

/-!
# Events read back from their spans

The span of an event tells the event again, as long as the event has no metadata of its own under
the keys that say what an event is about. No note has any.
-/

namespace StoryTrace

namespace StoryEvent

/-- What a span says about its event apart from the metadata of the event. -/
def about (e : StoryEvent) (storyId : String) : Metadata :=
  Table.ofList [("event_type", .string e.kind.text), ("story_id", .string storyId),
    ("beat_id", .ofOption .string e.beatId), ("character_ids", .ofStrings e.characterIds),
    ("emotional_tone", .ofOption .string e.emotionalTone),
    ("lead_universe", .ofOption .string e.leadUniverse)]

/-- The keys that say what an event is about. A single character may stand under a key of its
own. -/
def reservedKeys : List String :=
  ["event_type", "story_id", "beat_id", "character_ids", "character_id", "emotional_tone",
    "lead_universe"]

/-- The event has no metadata of its own under a reserved key. -/
def Unreserved (e : StoryEvent) : Prop := ∀ key ∈ reservedKeys, e.metadata.get? key = none

/-- The story span that the record of an event is read as. -/
def storySpan (e : StoryEvent) (storyId id traceId : String) (started ended : Instant) :
    StorySpan :=
  { StorySpan.new id traceId e.kind storyId started with
    beatId := e.beatId
    characterIds := e.characterIds
    emotionalTone := e.emotionalTone
    leadUniverse := e.leadUniverse
    universeCoherence := ((e.spanMetadata storyId).get? "coherence_score").bind Json.float?
    input := e.input
    output := e.output.getD []
    endTime := some ended
    durationMs := some (Float.ofNat (Instant.millisBetween started ended))
    metadata := e.spanMetadata storyId
    parentId := e.parentId }

section

variable {e : StoryEvent} (h : e.Unreserved) (storyId : String)
include h

/-- Under a reserved key a span says what its event is about. -/
theorem Unreserved.get?_spanMetadata {key : String} (hKey : key ∈ reservedKeys) :
    (e.spanMetadata storyId).get? key = (e.about storyId).get? key :=
  Table.get?_merge_of_get?_eq_none (h key hKey)

theorem Unreserved.textOf?_spanMetadata {key : String} (hKey : key ∈ reservedKeys) :
    StorySpan.textOf? (e.spanMetadata storyId) key = StorySpan.textOf? (e.about storyId) key := by
  rw [StorySpan.textOf?, h.get?_spanMetadata storyId hKey, StorySpan.textOf?]

omit h in
theorem string?_ofOption (text : Option String) :
    (Json.ofOption Json.string text).string? = text := by
  cases text <;> rfl

omit h in
theorem filterMap_string?_ofStrings (texts : List String) :
    ((Json.ofStrings texts).array?).map (·.filterMap Json.string?) = some texts := by
  have hTexts : (Json.string? ∘ Json.string) = some := rfl
  simp [Json.ofStrings, Json.array?, List.filterMap_map, hTexts]

/-- The characters are those of the list, since no character stands under a key of its own. -/
theorem Unreserved.charactersOf_spanMetadata :
    StorySpan.charactersOf (e.spanMetadata storyId) = e.characterIds := by
  have hList : ((e.spanMetadata storyId).get? "character_ids").bind Json.array? =
      (Json.ofStrings e.characterIds).array? := by
    rw [h.get?_spanMetadata storyId (by decide)]
    simp [about, Table.ofList, Table.merge]
  have hAlone : StorySpan.textOf? (e.spanMetadata storyId) "character_id" = none := by
    rw [h.textOf?_spanMetadata storyId (by decide)]
    simp [about, StorySpan.textOf?, Table.ofList, Table.merge]
  rw [StorySpan.charactersOf, hList, filterMap_string?_ofStrings, hAlone]
  cases e.characterIds <;> rfl

/-- The record of an event is read as the story span of the event. -/
theorem Unreserved.ofRecord?_spanOf (id traceId : String) (started ended : Instant) :
    StorySpan.ofRecord? (Narrator.spanOf e storyId id traceId started ended) =
      some (e.storySpan storyId id traceId started ended) := by
  have hOutput : ((e.output.map Json.object).map StorySpan.objectOf).getD [] =
      e.output.getD [] := by
    cases e.output <;> rfl
  have hTexts {key : String} (hKey : key ∈ reservedKeys) :=
    h.textOf?_spanMetadata storyId hKey
  simp only [StorySpan.ofRecord?, Narrator.spanOf, Span.finished, Span.new, hOutput,
    h.charactersOf_spanMetadata, hTexts (by decide : "event_type" ∈ reservedKeys),
    hTexts (by decide : "story_id" ∈ reservedKeys), hTexts (by decide : "beat_id" ∈ reservedKeys),
    hTexts (by decide : "emotional_tone" ∈ reservedKeys),
    hTexts (by decide : "lead_universe" ∈ reservedKeys)]
  simp [about, StorySpan.textOf?, Table.ofList, Table.merge, string?_ofOption, storySpan,
    StorySpan.new, StorySpan.objectOf, Span.duration?, Status.isFailed, Status.message?]

end

end StoryEvent

theorem StoryNote.unreserved_event (note : StoryNote) : note.event.Unreserved := by
  unfold StoryEvent.Unreserved
  cases note <;> simp [event, StoryEvent.reservedKeys, Table.ofList, Table.merge]

end StoryTrace
