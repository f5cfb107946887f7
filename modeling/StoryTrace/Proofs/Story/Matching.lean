import StoryTrace.Proofs.Story.Dealings
import StoryTrace.Proofs.Story.Recorded
import StoryTrace.Proofs.Table

/-!
# Spans and their records

A span that is opened by one of the calls is read back from its record. What the span is about
agrees from then on. How it ended agrees as long as nothing is called for it once it is closed,
since a closed record never changes.
-/

namespace StoryTrace

/-- The spans are about the same: all that is known of a span when it is opened is equal, apart from
the times. -/
structure StorySpan.SameMatter (a b : StorySpan) : Prop where
  id : a.id = b.id
  traceId : a.traceId = b.traceId
  kind : a.kind = b.kind
  storyId : a.storyId = b.storyId
  beatId : a.beatId = b.beatId
  characterIds : a.characterIds = b.characterIds
  emotionalTone : a.emotionalTone = b.emotionalTone
  leadUniverse : a.leadUniverse = b.leadUniverse
  input : a.input = b.input
  metadata : a.metadata = b.metadata
  parentId : a.parentId = b.parentId

theorem StorySpan.SameMatter.trans {a b c : StorySpan} (h : a.SameMatter b) (h' : b.SameMatter c) :
    a.SameMatter c where
  id := h.id.trans h'.id
  traceId := h.traceId.trans h'.traceId
  kind := h.kind.trans h'.kind
  storyId := h.storyId.trans h'.storyId
  beatId := h.beatId.trans h'.beatId
  characterIds := h.characterIds.trans h'.characterIds
  emotionalTone := h.emotionalTone.trans h'.emotionalTone
  leadUniverse := h.leadUniverse.trans h'.leadUniverse
  input := h.input.trans h'.input
  metadata := h.metadata.trans h'.metadata
  parentId := h.parentId.trans h'.parentId

namespace SpanPlan

open StorySpan

variable {p : SpanPlan}

/-- The metadata of the plan say what the plan is about. Its kind, its story and the universe are
left to the span. -/
structure Telling (p : SpanPlan) : Prop where
  sorted : p.metadata.Sorted
  kind : p.metadata.get? "event_type" = none
  story : p.metadata.get? "story_id" = none
  lead : p.metadata.get? "lead_universe" = none
  beat : textOf? p.metadata "beat_id" = p.beatId
  characters : charactersOf p.metadata = p.characterIds
  tone : textOf? p.metadata "emotional_tone" = p.emotionalTone

theorem get?_fullMetadata_of_ne {key : String} (hKind : "event_type" ≠ key)
    (hStory : "story_id" ≠ key) (h : p.metadata.Sorted) (storyId : String) :
    (p.fullMetadata storyId).get? key = p.metadata.get? key := by
  rw [fullMetadata, Table.get?_merge h]
  simp [Table.ofList, Table.merge, hKind, hStory]

namespace Telling

variable (h : p.Telling) (storyId : String)
include h

theorem textOf?_event_type :
    textOf? (p.fullMetadata storyId) "event_type" = some p.kind.text := by
  rw [textOf?, fullMetadata, Table.get?_merge_of_get?_eq_none h.kind]
  simp [Table.ofList, Table.merge, Json.string?]

theorem textOf?_story_id : textOf? (p.fullMetadata storyId) "story_id" = some storyId := by
  rw [textOf?, fullMetadata, Table.get?_merge_of_get?_eq_none h.story]
  simp [Table.ofList, Table.merge, Json.string?]

theorem textOf?_beat_id : textOf? (p.fullMetadata storyId) "beat_id" = p.beatId := by
  rw [textOf?, get?_fullMetadata_of_ne (by decide) (by decide) h.sorted]
  exact h.beat

theorem textOf?_emotional_tone :
    textOf? (p.fullMetadata storyId) "emotional_tone" = p.emotionalTone := by
  rw [textOf?, get?_fullMetadata_of_ne (by decide) (by decide) h.sorted]
  exact h.tone

theorem textOf?_lead_universe : textOf? (p.fullMetadata storyId) "lead_universe" = none := by
  rw [textOf?, get?_fullMetadata_of_ne (by decide) (by decide) h.sorted, h.lead]
  rfl

theorem charactersOf_fullMetadata :
    charactersOf (p.fullMetadata storyId) = p.characterIds := by
  rw [charactersOf, textOf?, get?_fullMetadata_of_ne (by decide) (by decide) h.sorted,
    get?_fullMetadata_of_ne (by decide) (by decide) h.sorted]
  exact h.characters

/-- The record of a new span is read as the span that the story keeps, apart from the times. -/
theorem ofRecord?_span (a : ActiveStory) (id : String) (started ended first last : Instant) :
    ∃ told, ofRecord? (p.span a id started ended) = some told ∧
      (p.storySpan a id first last).SameMatter told ∧
      (p.storySpan a id first last).success = told.success ∧
      (p.storySpan a id first last).error = told.error ∧
      (p.storySpan a id first last).output = told.output := by
  have hKind : (some p.kind.text).bind StoryKind.ofText? = some p.kind :=
    StoryKind.ofText?_text p.kind
  have hMetadata : (p.span a id started ended).metadata = p.fullMetadata a.storyId := by
    unfold span
    cases p.output <;> rfl
  simp only [ofRecord?, hMetadata, h.textOf?_event_type, h.textOf?_story_id, h.textOf?_beat_id,
    h.textOf?_emotional_tone, h.textOf?_lead_universe, h.charactersOf_fullMetadata, hKind]
  unfold span storySpan
  cases p.output <;> exact ⟨_, rfl, by constructor <;> rfl, rfl, rfl, rfl⟩

end Telling

end SpanPlan

namespace Orchestrator

open StorySpan

/-- What the calls put into the metadata of a span is what they keep of it. -/
theorem SpanCall.telling_plan (c : SpanCall) : c.plan.Telling := by
  have hText (s : String) : (Json.string s).string? = some s := rfl
  constructor
  case sorted => cases c <;> exact Table.sorted_ofList _
  all_goals
    cases c <;> simp [plan, SpanPlan.beat, SpanPlan.analysis, SpanPlan.flow, SpanPlan.enrichment,
      Table.ofList, Table.merge, textOf?, charactersOf, hText, StoryEvent.string?_ofOption]

/-- A span that is opened with an output is a beat. -/
theorem SpanCall.kind_plan_of_output (c : SpanCall) (h : c.plan.output ≠ none) :
    c.plan.kind = .beatCreated := by
  cases c with
  | beat b => rfl
  | analysis _ _ _ _ => exact absurd rfl h
  | flow _ _ _ _ _ => exact absurd rfl h
  | enrichment _ _ _ _ => exact absurd rfl h

/-- The calls that give the span an output or an error. -/
def revisions (id : String) (dealings : List Dealing) : List Call :=
  (dealings.map (·.call)).filter (·.request.revises? = some id)

def Call.isFailure : Call → Bool
  | .setError .. => true
  | _ => false

/-- The number of calls for a span that reach its record. A beat is closed from the start, and
another span is closed by the first call for it. -/
def heard (kind : StoryKind) : Nat := if kind = .beatCreated then 0 else 1

/-- After the calls for it a span is told by another one: what it is about always, and how it ended
if no call was made that its record could not hear. The output of a failure is told otherwise. -/
structure Agrees (calls : List Call) (live told : StorySpan) : Prop where
  matter : live.SameMatter told
  success : calls.length ≤ heard live.kind → live.success = told.success
  error : calls.length ≤ heard live.kind → live.error = told.error
  output : calls.length ≤ heard live.kind → (∀ c ∈ calls, c.isFailure = false) →
    live.output = told.output

/-- The record tells a tracked span after the calls for it. -/
structure Tells (calls : List Call) (live : StorySpan) (record : Span) : Prop where
  reads : ∃ told, ofRecord? record = some told ∧ Agrees calls live told
  untouched : live.endTime = none → record.isOpen = true ∧ live.success = true ∧
    live.error = none ∧ live.output = []
  touched : live.endTime ≠ none → live.kind ≠ .beatCreated → calls ≠ []

/-- The call ends an open span and sends a closure for it. -/
inductive Ends (known : StorySpan) : Call → StorySpan → Closure → Prop where
  | succeeds {id : String} {output : Json} {changed : StorySpan} {now : Instant}
      (matter : changed.SameMatter known) (ends : changed.endTime ≠ none)
      (success : changed.success = known.success) (error : changed.error = known.error)
      (given : known.output = [] → changed.output = objectOf output) :
      Ends known (.setOutput id output) changed (.succeeded id known.traceId (some output) now)
  | fails {id message : String} {changed : StorySpan} {now : Instant}
      (matter : changed.SameMatter known) (ends : changed.endTime ≠ none)
      (success : changed.success = false) (error : changed.error = some message) :
      Ends known (.setError id message) changed (.failed id known.traceId message none now)

theorem Ends.matter {known changed : StorySpan} {c : Call} {closure : Closure}
    (h : Ends known c changed closure) : changed.SameMatter known := by
  cases h with
  | succeeds matter _ _ _ _ => exact matter
  | fails matter _ _ _ => exact matter

theorem ofRecord?_closedBy {record : Span} {told : StorySpan} (h : ofRecord? record = some told)
    {output : Json} {c : Closure} (hOutput : c.output = some output) :
    ∃ again, ofRecord? (record.closedBy c) = some again ∧ told.SameMatter again ∧
      again.success = !c.status.isFailed ∧ again.error = c.status.message? ∧
      again.output = objectOf output := by
  obtain ⟨kind, hKind, hRest⟩ := Option.bind_eq_some_iff.1 h
  obtain rfl := Option.some.inj hRest
  refine ⟨_, Option.bind_eq_some_iff.2 ⟨kind, hKind, rfl⟩, by constructor <;> rfl, rfl, rfl, ?_⟩
  simp [Span.closedBy, hOutput]

namespace Tells

variable {calls : List Call} {live changed : StorySpan} {record : Span}

/-- A span that is opened is told by its record, whatever was called for its id before. -/
theorem opened (calls : List Call) (c : SpanCall) (a : ActiveStory) (id : String)
    (started ended first last : Instant) :
    Tells calls (c.plan.storySpan a id first last) (c.plan.span a id started ended) := by
  obtain ⟨told, hRead, hMatter, hSuccess, hError, hOutput⟩ :=
    c.telling_plan.ofRecord?_span a id started ended first last
  refine ⟨⟨told, hRead, hMatter, fun _ => hSuccess, fun _ => hError, fun _ _ => hOutput⟩,
    ?untouched, ?touched⟩
  case untouched =>
    unfold SpanPlan.storySpan SpanPlan.span
    cases c.plan.output with
    | none => exact fun _ => ⟨rfl, rfl, rfl, rfl⟩
    | some output => exact fun h => absurd h (Option.some_ne_none _)
  case touched =>
    unfold SpanPlan.storySpan
    cases hGiven : c.plan.output with
    | none => exact fun h => absurd rfl h
    | some output =>
        exact fun _ h => absurd (c.kind_plan_of_output (hGiven ▸ Option.some_ne_none _)) h

/-- A call for an open span closes its record. -/
theorem ended (h : Tells calls live record) (isOpen : live.endTime = none) {c : Call}
    {closure : Closure} (hEnds : Ends live c changed closure) :
    Tells (calls ++ [c]) changed (record.closedBy closure) := by
  obtain ⟨told, hRead, hAgrees⟩ := h.reads
  obtain ⟨-, hSuccess, hError, hOutput⟩ := h.untouched isOpen
  have hTouched : changed.endTime ≠ none → changed.kind ≠ .beatCreated → calls ++ [c] ≠ [] :=
    fun _ _ => List.append_ne_nil_of_right_ne_nil _ (List.cons_ne_nil _ _)
  cases hEnds with
  | @succeeds id output _ now matter ends success error given =>
      obtain ⟨again, hAgain, hMatter, hDone, hNone, hGiven⟩ :=
        ofRecord?_closedBy hRead (c := .succeeded id live.traceId (some output) now) rfl
      refine ⟨⟨again, hAgain, (matter.trans hAgrees.matter).trans hMatter, fun _ => ?success,
        fun _ => ?error, fun _ _ => ?output⟩, fun hOpen => absurd hOpen ends, hTouched⟩
      case success => rw [success, hSuccess, hDone]; rfl
      case error => rw [error, hError, hNone]; rfl
      case output => rw [given hOutput, hGiven]
  | @fails id message _ now matter ends success error =>
      obtain ⟨again, hAgain, hMatter, hFailed, hMessage, -⟩ :=
        ofRecord?_closedBy hRead (c := .failed id live.traceId message none now) rfl
      refine ⟨⟨again, hAgain, (matter.trans hAgrees.matter).trans hMatter, fun _ => ?success,
        fun _ => ?error, fun _ hNone => ?output⟩, fun hOpen => absurd hOpen ends, hTouched⟩
      case success => rw [success, hFailed]; rfl
      case error => rw [error, hMessage]; rfl
      case output =>
        -- The record has the message as its output, and the span has none.
        have hNot := hNone _ (List.mem_append_right _ (List.mem_singleton_self _))
        cases hNot

/-- What a call changes of an ended span is not heard by its record. -/
theorem revised (h : Tells calls live record) (hEnded : live.endTime ≠ none) (c : Call)
    (matter : changed.SameMatter live) (ends : changed.endTime ≠ none) :
    Tells (calls ++ [c]) changed record := by
  obtain ⟨told, hRead, hAgrees⟩ := h.reads
  -- The record was closed before, so this is one call more than it can hear.
  have hMany : ¬ (calls ++ [c]).length ≤ heard changed.kind := by
    rw [List.length_append, List.length_singleton, heard, matter.kind]
    split
    case isTrue => omega
    case isFalse hKind =>
      have := List.length_pos_of_ne_nil (h.touched hEnded hKind)
      omega
  exact ⟨⟨told, hRead, matter.trans hAgrees.matter, (absurd · hMany), (absurd · hMany),
    fun hFew => absurd hFew hMany⟩, fun hOpen => absurd hOpen ends,
    fun _ _ => List.append_ne_nil_of_right_ne_nil _ (List.cons_ne_nil _ _)⟩

end Tells

end Orchestrator

end StoryTrace
