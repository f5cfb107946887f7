import Mathlib.Data.List.Nodup
import StoryTrace.Proofs.Time.Sorting
import StoryTrace.Report.Timeline

/-!
# Stories and timelines by start

A story is read back from its records in the order of their starts, and its timeline lists it in
that order. The order in which the records come decides only between those that start together.
-/

namespace StoryTrace

/-! ## The records that tell of a story -/

theorem StoryKind.eq_text_of_ofText? {s : String} {k : StoryKind} (h : ofText? s = some k) :
    s = k.text := by
  obtain ⟨before, after, hNames, -⟩ := List.lookup_eq_some_iff.1 h
  have hMem : (s, k) ∈ names := hNames ▸ List.mem_append_right before (List.mem_cons_self ..)
  obtain ⟨other, -, hSame⟩ := List.mem_map.1 hMem
  obtain ⟨rfl, rfl⟩ := Prod.mk.inj hSame
  rfl

/-- A record tells of a story if its metadata name a kind of story events. -/
theorem StorySpan.isSome_ofRecord?_iff (r : Span) :
    (ofRecord? r).isSome = true ↔
      ∃ k : StoryKind, r.metadata.get? "event_type" = some (.string k.text) := by
  have hKind : (ofRecord? r).isSome = true ↔
      ∃ k, (textOf? r.metadata "event_type").bind StoryKind.ofText? = some k := by
    rw [ofRecord?]
    cases (textOf? r.metadata "event_type").bind StoryKind.ofText? <;> simp
  rw [hKind]
  constructor
  · rintro ⟨k, hNamed⟩
    obtain ⟨s, hText, hKnown⟩ := Option.bind_eq_some_iff.1 hNamed
    obtain ⟨v, hFound, hString⟩ := Option.bind_eq_some_iff.1 hText
    cases v with
    | string s' =>
        obtain rfl : s' = s := Option.some.inj hString
        exact ⟨k, StoryKind.eq_text_of_ofText? hKnown ▸ hFound⟩
    | _ => cases hString
  · rintro ⟨k, hFound⟩
    exact ⟨k, by simp [textOf?, hFound]⟩

namespace CompletedStory

variable {t : Trace} {records others : List Span}

theorem rearranged_ofRecord? (h : Rearranged Span.startedAt records others) :
    Rearranged StorySpan.startTime (records.filterMap StorySpan.ofRecord?)
      (others.filterMap StorySpan.ofRecord?) :=
  h.filterMap fun _ _ => StorySpan.startTime_of_ofRecord?

theorem lastEnd_of_perm (start : Instant) (h : records.Perm others) :
    lastEnd start records = lastEnd start others :=
  (h.map _).foldl_eq start

/-- Only the order of records that start together makes a difference to the story. -/
theorem ofRecords_eq_of_rearranged (t : Trace) (h : Rearranged Span.startedAt records others) :
    ofRecords t records = ofRecords t others := by
  have hSpans : sortSpans (records.filterMap StorySpan.ofRecord?) =
      sortSpans (others.filterMap StorySpan.ofRecord?) := (rearranged_ofRecord? h).mergeSort_eq
  have hEnd : lastEnd t.createdAt records = lastEnd t.createdAt others :=
    lastEnd_of_perm t.createdAt h.perm
  simp only [ofRecords, hSpans, hEnd]

theorem ble_lastEnd_of_mem {r : Span} (h : r ∈ records) (start : Instant) :
    (r.endedAt.getD r.startedAt).ble (lastEnd start records) = true :=
  Instant.ble_foldl_max_of_mem (List.mem_map.2 ⟨r, h, rfl⟩) start

end CompletedStory

/-! ## Timelines -/

/-- No two kinds have one name. -/
theorem StoryKind.displayName_injective : Function.Injective displayName := by
  have hNames : (all.map displayName).Nodup := by decide +kernel
  intro j k h
  exact List.inj_on_of_nodup_map hNames j.mem_all k.mem_all h

namespace Report

/-- A span has a line with the time of day at which it starts, its connector and its kind, and below
it one for its beat, its emotion and its universe, as far as it has them. -/
theorem timelineSpan_eq (connector : String) (s : StorySpan) :
    timelineSpan connector s =
      (Rfc3339.timeOfDayText s.startTime ++ " " ++ connector ++ " " ++ s.kind.displayName) ::
        (s.beatId.toList.map ("          │   beat: " ++ ·) ++
          s.emotionalTone.toList.map ("          │   emotion: " ++ ·) ++
          s.leadUniverse.toList.map ("          │   universe: " ++ ·)) := by
  rw [timelineSpan]
  cases s.beatId <;> cases s.emotionalTone <;> cases s.leadUniverse <;> rfl

/-- Only the last span has the closing connector. -/
theorem timelineSpans_eq (spans : List StorySpan) :
    timelineSpans spans = spans.dropLast.flatMap (timelineSpan "├─") ++
      spans.getLast?.toList.flatMap (timelineSpan "└─") := by
  induction spans with
  | nil => rfl
  | cons s spans ih =>
      cases spans with
      | nil => simp [timelineSpans]
      | cons next rest =>
          rw [timelineSpans, ih, List.dropLast_cons_cons, List.flatMap_cons,
            List.getLast?_cons_cons, List.append_assoc]

theorem timeline_eq_of_rearranged (c : CompletedStory) {spans : List StorySpan}
    (h : Rearranged StorySpan.startTime c.spans spans) :
    timeline { c with spans } = timeline c := by
  have hSpans : CompletedStory.sortSpans c.spans = CompletedStory.sortSpans spans := h.mergeSort_eq
  simp only [timeline, timelineLines, hSpans]

end Report

open CompletedStory Report in
/-- A story read from records depends on their order only among those that start together. Its
spans are told by the records that name a kind of story events, each by one, in the order of their
starts; it ends with its last record and not before it starts. A timeline depends on the order of
spans only among those that start together; after its heading it lists every span once, in the order
of their starts, and closes with the last one. What it lists of a span is when it starts and of which
kind it is, and what is known of its beat, its emotion and its universe. -/
theorem story_told_by_starts (t : Trace) (records : List Span) :
    (∀ others, Rearranged Span.startedAt records others →
        ofRecords t others = ofRecords t records) ∧
      (∀ r : Span, (StorySpan.ofRecord? r).isSome = true ↔
        ∃ k : StoryKind, r.metadata.get? "event_type" = some (.string k.text)) ∧
      Rearranged StorySpan.startTime (records.filterMap StorySpan.ofRecord?)
        (ofRecords t records).spans ∧
      Chronological StorySpan.startTime (ofRecords t records).spans ∧
      (ofRecords t records).startTime.ble (ofRecords t records).endTime = true ∧
      (∀ r ∈ records, (r.endedAt.getD r.startedAt).ble (ofRecords t records).endTime = true) ∧
      (∀ c : CompletedStory,
        (∀ spans, Rearranged StorySpan.startTime c.spans spans →
          timeline { c with spans } = timeline c) ∧
        ∃ told, Rearranged StorySpan.startTime c.spans told ∧
          Chronological StorySpan.startTime told ∧
          timeline c = Text.joinLines (["📅 Timeline: " ++ c.storyId,
              "   " ++ Rfc3339.offsetText c.startTime ++ " → " ++ Rfc3339.offsetText c.endTime,
              ""] ++
            (told.dropLast.flatMap (timelineSpan "├─") ++
              told.getLast?.toList.flatMap (timelineSpan "└─")))) ∧
      (∀ connector s, timelineSpan connector s =
        (Rfc3339.timeOfDayText s.startTime ++ " " ++ connector ++ " " ++ s.kind.displayName) ::
          (s.beatId.toList.map ("          │   beat: " ++ ·) ++
            s.emotionalTone.toList.map ("          │   emotion: " ++ ·) ++
            s.leadUniverse.toList.map ("          │   universe: " ++ ·))) ∧
      ∀ j k : StoryKind, j.displayName = k.displayName → j = k := by
  refine ⟨fun others h => (ofRecords_eq_of_rearranged t h).symm, StorySpan.isSome_ofRecord?_iff,
    rearranged_mergeSort _ _, chronological_mergeSort _ _, Instant.ble_foldl_max _ _,
    fun r hr => ble_lastEnd_of_mem hr t.createdAt, fun c => ⟨fun spans h => ?same, ?listed⟩,
    timelineSpan_eq, fun j k h => StoryKind.displayName_injective h⟩
  case same => exact timeline_eq_of_rearranged c h
  case listed =>
    refine ⟨sortSpans c.spans, rearranged_mergeSort _ _, chronological_mergeSort _ _, ?_⟩
    rw [timeline, timelineLines, timelineSpans_eq]

/-- The record of an event that is over at once. -/
def toldAt (id : String) (kind : StoryKind) (second : Int) : Span :=
  { Span.new id "t1" kind.displayName ⟨second, 0⟩ with
    metadata := [("event_type", .string kind.text)] }.finished none ⟨second, 0⟩

/-- The gap is recorded first, but it starts after the beat and its analysis, which start
together. -/
theorem rearranged_lateGap :
    Rearranged Span.startedAt
      [toldAt "s3" .gapIdentified 1700000005, toldAt "s1" .beatCreated 1700000000,
        toldAt "s2" .beatAnalyzed 1700000000]
      [toldAt "s1" .beatCreated 1700000000, toldAt "s2" .beatAnalyzed 1700000000,
        toldAt "s3" .gapIdentified 1700000005] where
  perm := (List.perm_append_comm : ([_] ++ [_, _]).Perm _)
  ties time := by
    have hStart (id : String) (kind : StoryKind) (second : Int) :
        (toldAt id kind second).startedAt = ⟨second, 0⟩ := rfl
    by_cases hEarly : (⟨1700000000, 0⟩ : Instant) = time
    · subst hEarly
      simp [hStart]
    · simp [List.filter_cons, hStart, hEarly]

/-- A story of the given records. -/
def storyOf (records : List Span) : CompletedStory :=
  CompletedStory.ofRecords (Trace.new "t1" "story" ⟨1700000000, 0⟩) records

theorem story_told_by_starts_lateGap :
    (storyOf [toldAt "s3" .gapIdentified 1700000005, toldAt "s1" .beatCreated 1700000000,
      toldAt "s2" .beatAnalyzed 1700000000]).spans.map (·.id) = ["s1", "s2", "s3"] ∧
    Report.timeline (storyOf [toldAt "s3" .gapIdentified 1700000005,
      toldAt "s1" .beatCreated 1700000000, toldAt "s2" .beatAnalyzed 1700000000]) =
        "📅 Timeline: unknown\n   2023-11-14T22:13:20+00:00 → 2023-11-14T22:13:25+00:00\n\n" ++
          "22:13:20.000 ├─ 📝 Created\n22:13:20.000 ├─ 🔍 Analyzed\n" ++
          "22:13:25.000 └─ 🕳️ Identified" := by
  obtain ⟨hSame, -, hTold, hOrder, -, -, hTimelines, -⟩ := story_told_by_starts
    (Trace.new "t1" "story" ⟨1700000000, 0⟩)
    [toldAt "s1" .beatCreated 1700000000, toldAt "s2" .beatAnalyzed 1700000000,
      toldAt "s3" .gapIdentified 1700000005]
  have hSpans := hTold.eq_of_chronological (by decide) hOrder
  rw [storyOf, hSame _ rearranged_lateGap.symm]
  constructor
  · rw [← hSpans]
    rfl
  · obtain ⟨told, hPerm, hChronological, hText⟩ := (hTimelines _).2
    rw [hText, ← hPerm.eq_of_chronological hOrder hChronological, ← hSpans]
    decide +kernel

end StoryTrace
