import StoryTrace.Proofs.Record.Survival
import StoryTrace.Proofs.Story.Metrics
import StoryTrace.Story.Completed

/-!
# Stories read back

The spans, the metrics and the correlation of a story survive their own JSON form as records do, and
so does the story that holds them. They say what is absent with a null.
-/

namespace StoryTrace

open Json (Form Restates SameValue SameMembers SameItems Keeps written keeps_eq keeps_restates
  keeps_items)
open Json.Layout

namespace Json

theorem forall₂_iff_mapM {α β : Type} {f : α → Option β} {xs : List α} {ys : List β} :
    List.Forall₂ (fun x y => f x = some y) xs ys ↔ xs.mapM f = some ys := by
  rw [mapM_eq_some_iff, ← List.forall₂_eq_eq_eq, List.forall₂_map_left_iff,
    List.forall₂_map_right_iff]

theorem isNull_ofFloat {x : Float} (h : x.isFinite = true) : (ofFloat x).isNull = false := by
  rw [ofFloat, if_pos h]
  rfl

end Json

namespace Correlation

def form : Form :=
  [("root_trace_id", Eq), ("child_trace_ids", Eq), ("story_id", Eq), ("session_id", Eq),
    ("correlation_path", Eq), ("created_at", Eq)]

def fields (c : Correlation) : List (String × Option Json) :=
  [("root_trace_id", some (.string c.rootTraceId)),
    ("child_trace_ids", some (.ofStrings c.childTraceIds)), ("story_id", some (.string c.storyId)),
    ("session_id", some (.string c.sessionId)), ("correlation_path", some (.ofStrings c.path)),
    ("created_at", some c.createdAt.toJson)]

theorem toJson_eq (c : Correlation) : c.toJson = .object (written c.fields) := rfl

/-- The time has a date. -/
structure Proper (c : Correlation) : Prop where
  createdAt : c.createdAt.Dated

theorem ofJson?_toJson {c : Correlation} (h : c.Proper) : ofJson? c.toJson = some c := by
  let l := named (written c.fields)
  have hSlot (place : Nat) {key : String} {v : Option Json}
      (hField : c.fields[place]? = some (key, v)) : l.slot? place key = some v :=
    slot?_written (by simp [fields]) hField
  have hRoot : l.required 0 "root_trace_id" Json.string? = some c.rootTraceId :=
    required_of_slot? (hSlot 0 rfl) rfl
  have hChildren : l.withDefault 1 "child_trace_ids" [] Json.strings? = some c.childTraceIds :=
    withDefault_of_slot? (hSlot 1 rfl) (Json.strings?_ofStrings _)
  have hStory : l.withDefault 2 "story_id" "" Json.string? = some c.storyId :=
    withDefault_of_slot? (hSlot 2 rfl) rfl
  have hSession : l.withDefault 3 "session_id" "" Json.string? = some c.sessionId :=
    withDefault_of_slot? (hSlot 3 rfl) rfl
  have hPath : l.withDefault 4 "correlation_path" [] Json.strings? = some c.path :=
    withDefault_of_slot? (hSlot 4 rfl) (Json.strings?_ofStrings _)
  have hCreated : l.required 5 "created_at" Instant.ofJson? = some c.createdAt :=
    required_of_slot? (hSlot 5 rfl) h.createdAt.ofJson?_toJson
  rw [toJson_eq, ofJson?]
  refine Option.bind_eq_some_iff.2 ⟨l, rfl, ?_⟩
  refine Option.bind_eq_some_iff.2 ⟨_, hRoot, ?_⟩
  refine Option.bind_eq_some_iff.2 ⟨_, hChildren, ?_⟩
  refine Option.bind_eq_some_iff.2 ⟨_, hStory, ?_⟩
  refine Option.bind_eq_some_iff.2 ⟨_, hSession, ?_⟩
  refine Option.bind_eq_some_iff.2 ⟨_, hPath, ?_⟩
  refine Option.bind_eq_some_iff.2 ⟨_, hCreated, ?_⟩
  rfl

theorem ofJson?_eq_of_restates {v w : Json} (h : Restates form v w) : ofJson? v = ofJson? w := by
  obtain rfl | ⟨members, others, rfl, rfl, hSame⟩ := h
  · rfl
  simp only [form, List.forall_mem_cons] at hSame
  obtain ⟨hRoot, hChildren, hStory, hSession, hPath, hCreated, -⟩ := hSame
  change ((named members).required 0 "root_trace_id" Json.string?).bind _ =
    ((named others).required 0 "root_trace_id" Json.string?).bind _
  refine Option.bind_congr' (required_eq hRoot (keeps_eq _)) fun _ _ => ?_
  refine Option.bind_congr' (withDefault_eq hChildren (keeps_eq _)) fun _ _ => ?_
  refine Option.bind_congr' (withDefault_eq hStory (keeps_eq _)) fun _ _ => ?_
  refine Option.bind_congr' (withDefault_eq hSession (keeps_eq _)) fun _ _ => ?_
  refine Option.bind_congr' (withDefault_eq hPath (keeps_eq _)) fun _ _ => ?_
  refine Option.bind_congr' (required_eq hCreated (keeps_eq _)) fun _ _ => ?_
  rfl

theorem survives : Survives form toJson ofJson? Proper (fun r => r) :=
  .of_fields toJson_eq (by simp [fields]) (fun _ => ofJson?_toJson) (by simp [form])
    fun _ _ => ofJson?_eq_of_restates

end Correlation

namespace StoryMetrics

/-- The arcs are free to stand in any order. -/
def form : Form :=
  [("coherence_score", Eq), ("emotional_arc_strength", Eq), ("theme_clarity", Eq),
    ("dialogue_consistency", Eq), ("character_arc_completion", SameMembers),
    ("relationship_depth", Eq), ("engineer_alignment", Eq), ("ceremony_alignment", Eq),
    ("story_engine_alignment", Eq), ("cross_universe_coherence", Eq), ("beats_generated", Eq),
    ("enrichments_applied", Eq), ("gaps_remediated", Eq), ("routing_decisions", Eq),
    ("total_generation_time_ms", Eq), ("average_beat_time_ms", Eq)]

theorem arcs?_eq_some_of_perm {members others : List (String × Json)} {arcs : Table Float}
    (hKeys : (members.map (·.1)).Nodup) (h : members.Perm others)
    (hArcs : arcs? (.object members) = some arcs) : arcs? (.object others) = some arcs := by
  obtain ⟨found, hRead, rfl⟩ := Option.map_eq_some_iff.1 hArcs
  obtain ⟨moved, hMoved, hPerm⟩ :=
    List.perm_comp_forall₂ h.symm (Json.forall₂_iff_mapM.2 hRead)
  have hNames : others.map (·.1) = moved.map (·.1) := by
    rw [← List.forall₂_eq_eq_eq, List.forall₂_map_left_iff, List.forall₂_map_right_iff]
    refine hMoved.imp fun e a hArc => ?_
    obtain ⟨x, -, rfl⟩ := Option.map_eq_some_iff.1 hArc
    rfl
  have hDistinct : (moved.map (·.1)).Nodup := hNames ▸ (h.map _).nodup hKeys
  refine Option.map_eq_some_iff.2 ⟨moved, Json.forall₂_iff_mapM.1 hMoved, ?_⟩
  exact Table.ofList_eq_of_perm hDistinct hPerm

theorem keeps_arcs : Keeps SameMembers arcs? := by
  rintro v w (rfl | ⟨members, others, rfl, rfl, hKeys, hPerm⟩)
  · exact ⟨rfl, rfl⟩
  · refine ⟨rfl, Option.ext fun arcs => ⟨arcs?_eq_some_of_perm hKeys hPerm, ?_⟩⟩
    exact arcs?_eq_some_of_perm ((hPerm.map _).nodup hKeys) hPerm.symm

theorem ofJson?_eq_of_restates {v w : Json} (h : Restates form v w) : ofJson? v = ofJson? w := by
  obtain rfl | ⟨members, others, rfl, rfl, hSame⟩ := h
  · rfl
  simp only [form, List.forall_mem_cons] at hSame
  obtain ⟨hCoherence, hEmotional, hTheme, hDialogue, hArcs, hRelationship, hEngineer, hCeremony,
    hStoryEngine, hCross, hBeats, hEnrichments, hRemediations, hDecisions, hTotal, hAverage, -⟩ :=
    hSame
  change ((named members).withDefault 0 "coherence_score" default.coherence Json.float?).bind _ =
    ((named others).withDefault 0 "coherence_score" default.coherence Json.float?).bind _
  refine Option.bind_congr' (withDefault_eq hCoherence (keeps_eq _)) fun _ _ => ?_
  refine Option.bind_congr' (withDefault_eq hEmotional (keeps_eq _)) fun _ _ => ?_
  refine Option.bind_congr' (withDefault_eq hTheme (keeps_eq _)) fun _ _ => ?_
  refine Option.bind_congr' (withDefault_eq hDialogue (keeps_eq _)) fun _ _ => ?_
  refine Option.bind_congr' (withDefault_eq hArcs keeps_arcs) fun _ _ => ?_
  refine Option.bind_congr' (withDefault_eq hRelationship (keeps_eq _)) fun _ _ => ?_
  refine Option.bind_congr' (withDefault_eq hEngineer (keeps_eq _)) fun _ _ => ?_
  refine Option.bind_congr' (withDefault_eq hCeremony (keeps_eq _)) fun _ _ => ?_
  refine Option.bind_congr' (withDefault_eq hStoryEngine (keeps_eq _)) fun _ _ => ?_
  refine Option.bind_congr' (withDefault_eq hCross (keeps_eq _)) fun _ _ => ?_
  refine Option.bind_congr' (withDefault_eq hBeats (keeps_eq _)) fun _ _ => ?_
  refine Option.bind_congr' (withDefault_eq hEnrichments (keeps_eq _)) fun _ _ => ?_
  refine Option.bind_congr' (withDefault_eq hRemediations (keeps_eq _)) fun _ _ => ?_
  refine Option.bind_congr' (withDefault_eq hDecisions (keeps_eq _)) fun _ _ => ?_
  refine Option.bind_congr' (withDefault_eq hTotal (keeps_eq _)) fun _ _ => ?_
  refine Option.bind_congr' (withDefault_eq hAverage (keeps_eq _)) fun _ _ => ?_
  rfl

theorem nodup_members (m : StoryMetrics) : (m.members.map (·.1)).Nodup := by
  simp [members]

theorem form_refl : ∀ f ∈ form, ∀ v, f.2 v v := by
  simp [form, SameMembers]

/-- The canonical form only moves the members, and that is read back. -/
theorem ofJson?_toJson {m : StoryMetrics} (h : m.Finite) : ofJson? m.toJson = some m := by
  have hMoved : (m.members.filter (·.1 ∈ form.map (·.1))).Perm
      ((Table.ofList m.members).filter (·.1 ∈ form.map (·.1))) :=
    ((Table.perm_ofList (nodup_members m)).filter _).symm
  rw [← ofJson?_canonical_toJson h, canonical_toJson h.sorted]
  exact ofJson?_eq_of_restates (Json.restates_of_perm form_refl hMoved)

theorem survives : Survives form toJson ofJson? Finite (fun r => r) :=
  .of_fields (fun m => congrArg Json.object (Json.written_map_some m.members).symm)
    (fun m => by rw [List.map_map]; exact nodup_members m) (fun _ => ofJson?_toJson) form_refl
    fun _ _ => ofJson?_eq_of_restates

end StoryMetrics

namespace StorySpan

def form : Form :=
  [("span_id", Eq), ("trace_id", Eq), ("event_type", Eq), ("story_id", Eq), ("session_id", Eq),
    ("beat_id", Eq), ("character_ids", Eq), ("emotional_tone", Eq), ("theme_keywords", Eq),
    ("lead_universe", Eq), ("universe_coherence", Eq), ("input_data", SameValue),
    ("output_data", SameValue), ("start_time", Eq), ("end_time", Eq), ("duration_ms", Eq),
    ("metadata", SameValue), ("parent_span_id", Eq), ("success", Eq), ("error", Eq)]

def fields (s : StorySpan) : List (String × Option Json) :=
  [("span_id", some (.string s.id)), ("trace_id", some (.string s.traceId)),
    ("event_type", some (.string s.kind.text)), ("story_id", some (.string s.storyId)),
    ("session_id", some (.ofOption .string s.sessionId)),
    ("beat_id", some (.ofOption .string s.beatId)),
    ("character_ids", some (.ofStrings s.characterIds)),
    ("emotional_tone", some (.ofOption .string s.emotionalTone)),
    ("theme_keywords", some (.ofStrings s.themeKeywords)),
    ("lead_universe", some (.ofOption .string s.leadUniverse)),
    ("universe_coherence", some (.ofOption .ofFloat s.universeCoherence)),
    ("input_data", some (.object s.input)), ("output_data", some (.object s.output)),
    ("start_time", some s.startTime.toJson),
    ("end_time", some (.ofOption Instant.toJson s.endTime)),
    ("duration_ms", some (.ofOption .ofFloat s.durationMs)),
    ("metadata", some (.object s.metadata)),
    ("parent_span_id", some (.ofOption .string s.parentId)), ("success", some (.bool s.success)),
    ("error", some (.ofOption .string s.error))]

theorem toJson_eq (s : StorySpan) : s.toJson = .object (written s.fields) := rfl

/-- The numbers are finite, the free-form values in canonical form, and the times have dates. -/
structure Proper (s : StorySpan) : Prop where
  universeCoherence : ∀ x ∈ s.universeCoherence, x.isFinite = true
  input : (Json.object s.input).canonical = .object s.input
  output : (Json.object s.output).canonical = .object s.output
  startTime : s.startTime.Dated
  endTime : ∀ t ∈ s.endTime, t.Dated
  durationMs : ∀ x ∈ s.durationMs, x.isFinite = true
  metadata : (Json.object s.metadata).canonical = .object s.metadata

theorem ofJson?_toJson {s : StorySpan} (h : s.Proper) : ofJson? s.toJson = some s := by
  let l := named (written s.fields)
  have hSlot (place : Nat) {key : String} {v : Option Json}
      (hField : s.fields[place]? = some (key, v)) : l.slot? place key = some v :=
    slot?_written (by simp [fields]) hField
  have hText (x : Option String) :
      ∀ a ∈ x, (Json.string a).isNull = false ∧ (Json.string a).string? = some a :=
    fun _ _ => ⟨rfl, rfl⟩
  have hNumber {x : Option Float} (hFinite : ∀ a ∈ x, a.isFinite = true) :
      ∀ a ∈ x, (Json.ofFloat a).isNull = false ∧ (Json.ofFloat a).float? = some a :=
    fun a ha => ⟨Json.isNull_ofFloat (hFinite a ha), Json.float?_ofFloat (hFinite a ha)⟩
  have hId : l.required 0 "span_id" Json.string? = some s.id := required_of_slot? (hSlot 0 rfl) rfl
  have hTraceId : l.required 1 "trace_id" Json.string? = some s.traceId :=
    required_of_slot? (hSlot 1 rfl) rfl
  have hKind : l.required 2 "event_type" (Json.choice? StoryKind.names) = some s.kind :=
    required_of_slot? (hSlot 2 rfl) (StoryKind.ofText?_text s.kind)
  have hStoryId : l.required 3 "story_id" Json.string? = some s.storyId :=
    required_of_slot? (hSlot 3 rfl) rfl
  have hSession : l.optional 4 "session_id" Json.string? = some s.sessionId :=
    optional_of_slot?_ofOption (hSlot 4 rfl) (hText _)
  have hBeat : l.optional 5 "beat_id" Json.string? = some s.beatId :=
    optional_of_slot?_ofOption (hSlot 5 rfl) (hText _)
  have hCharacters : l.withDefault 6 "character_ids" [] Json.strings? = some s.characterIds :=
    withDefault_of_slot? (hSlot 6 rfl) (Json.strings?_ofStrings _)
  have hTone : l.optional 7 "emotional_tone" Json.string? = some s.emotionalTone :=
    optional_of_slot?_ofOption (hSlot 7 rfl) (hText _)
  have hThemes : l.withDefault 8 "theme_keywords" [] Json.strings? = some s.themeKeywords :=
    withDefault_of_slot? (hSlot 8 rfl) (Json.strings?_ofStrings _)
  have hLead : l.optional 9 "lead_universe" Json.string? = some s.leadUniverse :=
    optional_of_slot?_ofOption (hSlot 9 rfl) (hText _)
  have hCoherence : l.optional 10 "universe_coherence" Json.float? = some s.universeCoherence :=
    optional_of_slot?_ofOption (hSlot 10 rfl) (hNumber h.universeCoherence)
  have hInput : l.metadata 11 "input_data" = some s.input :=
    withDefault_of_slot? (hSlot 11 rfl) (Json.metadata?_object h.input)
  have hOutput : l.metadata 12 "output_data" = some s.output :=
    withDefault_of_slot? (hSlot 12 rfl) (Json.metadata?_object h.output)
  have hStart : l.required 13 "start_time" Instant.ofJson? = some s.startTime :=
    required_of_slot? (hSlot 13 rfl) h.startTime.ofJson?_toJson
  have hEnd : l.optional 14 "end_time" Instant.ofJson? = some s.endTime :=
    optional_of_slot?_ofOption (hSlot 14 rfl) fun t ht => ⟨rfl, (h.endTime t ht).ofJson?_toJson⟩
  have hDuration : l.optional 15 "duration_ms" Json.float? = some s.durationMs :=
    optional_of_slot?_ofOption (hSlot 15 rfl) (hNumber h.durationMs)
  have hMetadata : l.metadata 16 "metadata" = some s.metadata :=
    withDefault_of_slot? (hSlot 16 rfl) (Json.metadata?_object h.metadata)
  have hParent : l.optional 17 "parent_span_id" Json.string? = some s.parentId :=
    optional_of_slot?_ofOption (hSlot 17 rfl) (hText _)
  have hSuccess : l.required 18 "success" Json.bool? = some s.success :=
    required_of_slot? (hSlot 18 rfl) rfl
  have hError : l.optional 19 "error" Json.string? = some s.error :=
    optional_of_slot?_ofOption (hSlot 19 rfl) (hText _)
  rw [toJson_eq, ofJson?]
  refine Option.bind_eq_some_iff.2 ⟨l, rfl, ?_⟩
  refine Option.bind_eq_some_iff.2 ⟨_, hId, ?_⟩
  refine Option.bind_eq_some_iff.2 ⟨_, hTraceId, ?_⟩
  refine Option.bind_eq_some_iff.2 ⟨_, hKind, ?_⟩
  refine Option.bind_eq_some_iff.2 ⟨_, hStoryId, ?_⟩
  refine Option.bind_eq_some_iff.2 ⟨_, hSession, ?_⟩
  refine Option.bind_eq_some_iff.2 ⟨_, hBeat, ?_⟩
  refine Option.bind_eq_some_iff.2 ⟨_, hCharacters, ?_⟩
  refine Option.bind_eq_some_iff.2 ⟨_, hTone, ?_⟩
  refine Option.bind_eq_some_iff.2 ⟨_, hThemes, ?_⟩
  refine Option.bind_eq_some_iff.2 ⟨_, hLead, ?_⟩
  refine Option.bind_eq_some_iff.2 ⟨_, hCoherence, ?_⟩
  refine Option.bind_eq_some_iff.2 ⟨_, hInput, ?_⟩
  refine Option.bind_eq_some_iff.2 ⟨_, hOutput, ?_⟩
  refine Option.bind_eq_some_iff.2 ⟨_, hStart, ?_⟩
  refine Option.bind_eq_some_iff.2 ⟨_, hEnd, ?_⟩
  refine Option.bind_eq_some_iff.2 ⟨_, hDuration, ?_⟩
  refine Option.bind_eq_some_iff.2 ⟨_, hMetadata, ?_⟩
  refine Option.bind_eq_some_iff.2 ⟨_, hParent, ?_⟩
  refine Option.bind_eq_some_iff.2 ⟨_, hSuccess, ?_⟩
  refine Option.bind_eq_some_iff.2 ⟨_, hError, ?_⟩
  rfl

theorem ofJson?_eq_of_restates {v w : Json} (h : Restates form v w) : ofJson? v = ofJson? w := by
  obtain rfl | ⟨members, others, rfl, rfl, hSame⟩ := h
  · rfl
  simp only [form, List.forall_mem_cons] at hSame
  obtain ⟨hId, hTraceId, hKind, hStoryId, hSession, hBeat, hCharacters, hTone, hThemes, hLead,
    hCoherence, hInput, hOutput, hStart, hEnd, hDuration, hMetadata, hParent, hSuccess, hError,
    -⟩ := hSame
  change ((named members).required 0 "span_id" Json.string?).bind _ =
    ((named others).required 0 "span_id" Json.string?).bind _
  refine Option.bind_congr' (required_eq hId (keeps_eq _)) fun _ _ => ?_
  refine Option.bind_congr' (required_eq hTraceId (keeps_eq _)) fun _ _ => ?_
  refine Option.bind_congr' (required_eq hKind (keeps_eq _)) fun _ _ => ?_
  refine Option.bind_congr' (required_eq hStoryId (keeps_eq _)) fun _ _ => ?_
  refine Option.bind_congr' (optional_eq hSession (keeps_eq _)) fun _ _ => ?_
  refine Option.bind_congr' (optional_eq hBeat (keeps_eq _)) fun _ _ => ?_
  refine Option.bind_congr' (withDefault_eq hCharacters (keeps_eq _)) fun _ _ => ?_
  refine Option.bind_congr' (optional_eq hTone (keeps_eq _)) fun _ _ => ?_
  refine Option.bind_congr' (withDefault_eq hThemes (keeps_eq _)) fun _ _ => ?_
  refine Option.bind_congr' (optional_eq hLead (keeps_eq _)) fun _ _ => ?_
  refine Option.bind_congr' (optional_eq hCoherence (keeps_eq _)) fun _ _ => ?_
  refine Option.bind_congr' (metadata_eq hInput) fun _ _ => ?_
  refine Option.bind_congr' (metadata_eq hOutput) fun _ _ => ?_
  refine Option.bind_congr' (required_eq hStart (keeps_eq _)) fun _ _ => ?_
  refine Option.bind_congr' (optional_eq hEnd (keeps_eq _)) fun _ _ => ?_
  refine Option.bind_congr' (optional_eq hDuration (keeps_eq _)) fun _ _ => ?_
  refine Option.bind_congr' (metadata_eq hMetadata) fun _ _ => ?_
  refine Option.bind_congr' (optional_eq hParent (keeps_eq _)) fun _ _ => ?_
  refine Option.bind_congr' (required_eq hSuccess (keeps_eq _)) fun _ _ => ?_
  refine Option.bind_congr' (optional_eq hError (keeps_eq _)) fun _ _ => ?_
  rfl

theorem survives : Survives form toJson ofJson? Proper (fun r => r) :=
  .of_fields toJson_eq (by simp [fields]) (fun _ => ofJson?_toJson) (by simp [form, SameValue])
    fun _ _ => ofJson?_eq_of_restates

end StorySpan

namespace CompletedStory

def form : Form :=
  [("trace_id", Eq), ("story_id", Eq), ("session_id", Eq),
    ("spans", SameItems (Restates StorySpan.form)), ("start_time", Eq), ("end_time", Eq),
    ("duration_ms", Eq), ("metrics", Restates StoryMetrics.form), ("story_content", Eq),
    ("beat_count", Eq), ("correlation", Restates Correlation.form)]

def fields (c : CompletedStory) : List (String × Option Json) :=
  [("trace_id", some (.string c.traceId)), ("story_id", some (.string c.storyId)),
    ("session_id", some (.string c.sessionId)),
    ("spans", some (.array (c.spans.map StorySpan.toJson))),
    ("start_time", some c.startTime.toJson), ("end_time", some c.endTime.toJson),
    ("duration_ms", some (.ofFloat c.durationMs)),
    ("metrics", some (.ofOption StoryMetrics.toJson c.metrics)),
    ("story_content", some (.ofOption .string c.content)),
    ("beat_count", some (.ofNat c.beatCount)),
    ("correlation", some (.ofOption Correlation.toJson c.correlation))]

theorem toJson_eq (c : CompletedStory) : c.toJson = .object (written c.fields) := rfl

/-- The parts survive, the times have dates, the duration is finite, and the count has 64 bits. -/
structure Proper (c : CompletedStory) : Prop where
  spans : ∀ s ∈ c.spans, s.Proper
  startTime : c.startTime.Dated
  endTime : c.endTime.Dated
  durationMs : c.durationMs.isFinite = true
  metrics : ∀ m ∈ c.metrics, m.Finite
  beatCount : c.beatCount < UInt64.size
  correlation : ∀ x ∈ c.correlation, x.Proper

theorem ofJson?_toJson {c : CompletedStory} (h : c.Proper) : ofJson? c.toJson = some c := by
  let l := named (written c.fields)
  have hSlot (place : Nat) {key : String} {v : Option Json}
      (hField : c.fields[place]? = some (key, v)) : l.slot? place key = some v :=
    slot?_written (by simp [fields]) hField
  have hTraceId : l.required 0 "trace_id" Json.string? = some c.traceId :=
    required_of_slot? (hSlot 0 rfl) rfl
  have hStoryId : l.required 1 "story_id" Json.string? = some c.storyId :=
    required_of_slot? (hSlot 1 rfl) rfl
  have hSession : l.required 2 "session_id" Json.string? = some c.sessionId :=
    required_of_slot? (hSlot 2 rfl) rfl
  have hSpans : l.withDefault 3 "spans" []
      (fun v => v.array?.bind (·.mapM StorySpan.ofJson?)) = some c.spans :=
    withDefault_of_slot? (hSlot 3 rfl)
      (Json.mapM_map_eq_some fun s hs => StorySpan.ofJson?_toJson (h.spans s hs))
  have hStart : l.required 4 "start_time" Instant.ofJson? = some c.startTime :=
    required_of_slot? (hSlot 4 rfl) h.startTime.ofJson?_toJson
  have hEnd : l.required 5 "end_time" Instant.ofJson? = some c.endTime :=
    required_of_slot? (hSlot 5 rfl) h.endTime.ofJson?_toJson
  have hDuration : l.required 6 "duration_ms" Json.float? = some c.durationMs :=
    required_of_slot? (hSlot 6 rfl) (Json.float?_ofFloat h.durationMs)
  have hMetrics : l.optional 7 "metrics" StoryMetrics.ofJson? = some c.metrics :=
    optional_of_slot?_ofOption (hSlot 7 rfl)
      fun m hm => ⟨rfl, StoryMetrics.ofJson?_toJson (h.metrics m hm)⟩
  have hContent : l.optional 8 "story_content" Json.string? = some c.content :=
    optional_of_slot?_ofOption (hSlot 8 rfl) fun _ _ => ⟨rfl, rfl⟩
  have hCount : l.withDefault 9 "beat_count" 0 Json.nat? = some c.beatCount :=
    withDefault_of_slot? (hSlot 9 rfl) (Json.nat?_ofNat h.beatCount)
  have hCorrelation : l.optional 10 "correlation" Correlation.ofJson? = some c.correlation :=
    optional_of_slot?_ofOption (hSlot 10 rfl)
      fun x hx => ⟨rfl, Correlation.ofJson?_toJson (h.correlation x hx)⟩
  rw [toJson_eq, ofJson?]
  refine Option.bind_eq_some_iff.2 ⟨l, rfl, ?_⟩
  refine Option.bind_eq_some_iff.2 ⟨_, hTraceId, ?_⟩
  refine Option.bind_eq_some_iff.2 ⟨_, hStoryId, ?_⟩
  refine Option.bind_eq_some_iff.2 ⟨_, hSession, ?_⟩
  refine Option.bind_eq_some_iff.2 ⟨_, hSpans, ?_⟩
  refine Option.bind_eq_some_iff.2 ⟨_, hStart, ?_⟩
  refine Option.bind_eq_some_iff.2 ⟨_, hEnd, ?_⟩
  refine Option.bind_eq_some_iff.2 ⟨_, hDuration, ?_⟩
  refine Option.bind_eq_some_iff.2 ⟨_, hMetrics, ?_⟩
  refine Option.bind_eq_some_iff.2 ⟨_, hContent, ?_⟩
  refine Option.bind_eq_some_iff.2 ⟨_, hCount, ?_⟩
  refine Option.bind_eq_some_iff.2 ⟨_, hCorrelation, ?_⟩
  rfl

theorem ofJson?_eq_of_restates {v w : Json} (h : Restates form v w) : ofJson? v = ofJson? w := by
  obtain rfl | ⟨members, others, rfl, rfl, hSame⟩ := h
  · rfl
  simp only [form, List.forall_mem_cons] at hSame
  obtain ⟨hTraceId, hStoryId, hSession, hSpans, hStart, hEnd, hDuration, hMetrics, hContent, hCount,
    hCorrelation, -⟩ := hSame
  change ((named members).required 0 "trace_id" Json.string?).bind _ =
    ((named others).required 0 "trace_id" Json.string?).bind _
  refine Option.bind_congr' (required_eq hTraceId (keeps_eq _)) fun _ _ => ?_
  refine Option.bind_congr' (required_eq hStoryId (keeps_eq _)) fun _ _ => ?_
  refine Option.bind_congr' (required_eq hSession (keeps_eq _)) fun _ _ => ?_
  refine Option.bind_congr'
    (withDefault_eq hSpans (keeps_items fun _ _ => StorySpan.ofJson?_eq_of_restates)) fun _ _ => ?_
  refine Option.bind_congr' (required_eq hStart (keeps_eq _)) fun _ _ => ?_
  refine Option.bind_congr' (required_eq hEnd (keeps_eq _)) fun _ _ => ?_
  refine Option.bind_congr' (required_eq hDuration (keeps_eq _)) fun _ _ => ?_
  refine Option.bind_congr'
    (optional_eq hMetrics (keeps_restates fun _ _ => StoryMetrics.ofJson?_eq_of_restates))
    fun _ _ => ?_
  refine Option.bind_congr' (optional_eq hContent (keeps_eq _)) fun _ _ => ?_
  refine Option.bind_congr' (withDefault_eq hCount (keeps_eq _)) fun _ _ => ?_
  refine Option.bind_congr'
    (optional_eq hCorrelation (keeps_restates fun _ _ => Correlation.ofJson?_eq_of_restates))
    fun _ _ => ?_
  rfl

theorem survives : Survives form toJson ofJson? Proper (fun r => r) :=
  .of_fields toJson_eq (by simp [fields]) (fun _ => ofJson?_toJson)
    (by simp [form, SameItems, Restates]) fun _ _ => ofJson?_eq_of_restates

end CompletedStory

/-- Every record survives its own JSON form, except that an output that is null is then absent. -/
theorem own_form_read_back :
    Survives Trace.form Trace.toJson Trace.ofJson? Trace.Proper Trace.withoutNull ∧
      Survives TraceUpdate.form TraceUpdate.toJson TraceUpdate.ofJson? TraceUpdate.Proper
        TraceUpdate.withoutNull ∧
      Survives Span.form Span.toJson Span.ofJson? Span.Proper Span.withoutNull ∧
      Survives Closure.form Closure.toJson Closure.ofJson? Closure.Proper Closure.withoutNull ∧
      Survives StorySpan.form StorySpan.toJson StorySpan.ofJson? StorySpan.Proper (fun r => r) ∧
      Survives Correlation.form Correlation.toJson Correlation.ofJson? Correlation.Proper
        (fun r => r) ∧
      Survives StoryMetrics.form StoryMetrics.toJson StoryMetrics.ofJson? StoryMetrics.Finite
        (fun r => r) ∧
      Survives CompletedStory.form CompletedStory.toJson CompletedStory.ofJson?
        CompletedStory.Proper (fun r => r) :=
  ⟨Trace.survives, TraceUpdate.survives, Span.survives, Closure.survives, StorySpan.survives,
    Correlation.survives, StoryMetrics.survives, CompletedStory.survives⟩

/-- A call of a model that was refused, with a null for its output. -/
def refusedCall : Span :=
  { Span.new "s2" "t1" "ask" ⟨1700000000, 0⟩ with
    parentId := some "s1"
    type := .generation
    output := some .null
    endedAt := some ⟨1700000001, 250000000⟩
    status := .failed "refused" (some "Quota")
    level := .error
    usage := some (.ofCounts 12 30) }

theorem proper_refusedCall : refusedCall.Proper where
  input := rfl
  output v hv := Option.mem_some_iff.1 hv ▸ rfl
  metadata := rfl
  startedAt := ⟨by decide, by decide⟩
  endedAt t ht := Option.mem_some_iff.1 ht ▸ ⟨by decide, by decide⟩
  usage u hu := Option.mem_some_iff.1 hu ▸ ⟨by decide, by decide, by decide⟩

theorem legible_refusedCall : refusedCall.toJson.Legible Json.maxDepth := by
  have hCount {n depth : Nat} (h : n < 100) : (Json.ofNat n).Legible depth :=
    Json.legible_ofNat (Nat.lt_trans h (by decide))
  have hUsage : (Usage.ofCounts 12 30).toJson.Legible (Json.maxDepth - 1) :=
    ⟨by decide, hCount (by decide), hCount (by decide), hCount (by decide), trivial⟩
  refine ⟨by decide, Json.legibleMembers_iff.2 ?_⟩
  simp [refusedCall, Span.new, Span.members, Json.given, Json.filled, Status.members, Json.Legible,
    SpanType.toJson, Instant.toJson, Level.toJson, hUsage]

/-- The refused call is read back from its text, and from its members in reverse order with one more
before them. -/
theorem own_form_read_back_refusedCall :
    (Json.parse? refusedCall.toJson.compress).bind Span.ofJson? =
        some { refusedCall with output := none } ∧
      Span.ofJson? (.object (("mood", .null) :: refusedCall.members.reverse)) =
        some { refusedCall with output := none } := by
  obtain ⟨-, -, hSpan, -⟩ := own_form_read_back
  refine ⟨hSpan.readBack refusedCall proper_refusedCall legible_refusedCall, ?_⟩
  rw [← hSpan.rearranged refusedCall.members]
  · exact Span.ofJson?_toJson proper_refusedCall
  · rw [List.filter_cons_of_neg (by simp [Span.form, Status.form])]
    exact (List.reverse_perm _).symm.filter _

/-- A span with a number that is read one unit in the last place off. -/
def unsteady : StorySpan :=
  { StorySpan.new "s1" "t1" .universeCoherenceCalculated "story1" ⟨1682935200, 0⟩ with
    universeCoherence := some 0.9007407406727833 }

/-- A null in so many lists. -/
def boxedNull (n : Nat) : Json := n.repeat (fun v => .array [v]) .null

theorem canonical_boxedNull (n : Nat) : (boxedNull n).canonical = boxedNull n := by
  induction n with
  | zero => rfl
  | succ n ih => exact congrArg (fun v => Json.array [v]) ih

/-- An update whose output is nested one level deeper than the reader follows. -/
def buried : TraceUpdate := ⟨"t1", some (boxedNull 127), []⟩

theorem proper_unsteady : unsteady.Proper where
  universeCoherence x hx := Option.mem_some_iff.1 hx ▸ rfl
  input := rfl
  output := rfl
  startTime := ⟨by decide, by decide⟩
  endTime := nofun
  durationMs := nofun
  metadata := rfl

theorem proper_buried : buried.Proper where
  output _ hv := Option.mem_some_iff.1 hv ▸ canonical_boxedNull 127
  metadata := rfl

/-- Some numbers are read one unit in the last place off, and values that are nested too deeply are
not read at all. -/
theorem own_form_not_read_back :
    (unsteady.Proper ∧ ∃ told, (Json.parse? unsteady.toJson.compress).bind StorySpan.ofJson? =
        some told ∧ told ≠ unsteady) ∧
      buried.Proper ∧ (Json.parse? buried.toJson.compress).bind TraceUpdate.ofJson? = none := by
  have hRead : ((Json.parse? unsteady.toJson.compress).bind StorySpan.ofJson?).bind
      (fun s => s.universeCoherence.map Float.toBits) = some (Float.toBits 0.9007407406727832) := by
    simp only [Json.parse?, Json.compress, String.toList_ofList]
    decide +kernel
  have hOther : unsteady.universeCoherence.map Float.toBits ≠
      some (Float.toBits 0.9007407406727832) := by
    decide +kernel
  have hDeep : ((Json.parse? buried.toJson.compress).bind TraceUpdate.ofJson?).isNone = true := by
    simp only [Json.parse?, Json.compress, String.toList_ofList]
    decide +kernel
  obtain ⟨told, hTold, hBits⟩ := Option.bind_eq_some_iff.1 hRead
  refine ⟨⟨proper_unsteady, told, hTold, ?_⟩, proper_buried, Option.isNone_iff_eq_none.1 hDeep⟩
  rintro rfl
  exact hOther hBits

end StoryTrace
