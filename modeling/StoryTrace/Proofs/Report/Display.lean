import Mathlib.Data.List.Perm.Basic
import StoryTrace.Proofs.FirstPlaces
import StoryTrace.Proofs.Table
import StoryTrace.Report.Display

/-!
# Displays account for spans

Spans are put into groups one after the other. However beats, repeated creations and missing
creations come in turns, the groups are those of the beats in the order in which they first come
up, and each holds the spans about its beat in their order. So a display lists every span once,
apart from those of beats that were never created.
-/

namespace StoryTrace.Report

/-- The beats that spans are about, each where it first comes up. -/
def beatIds (spans : List StorySpan) : List String := (spans.filterMap (·.beatId)).eraseDups

def aboutBeat (spans : List StorySpan) (id : String) : List StorySpan :=
  spans.filter (·.beatId == some id)

variable {spans : List StorySpan} {s : StorySpan} {id : String}

theorem mem_beatIds_iff : id ∈ beatIds spans ↔ ∃ s ∈ spans, s.beatId = some id := by
  rw [beatIds, List.mem_eraseDups, List.mem_filterMap]

theorem beatIds_append_singleton (spans : List StorySpan) (s : StorySpan) :
    beatIds (spans ++ [s]) =
      beatIds spans ++ s.beatId.toList.filter fun id => !(beatIds spans).contains id := by
  have hLast : (spans ++ [s]).filterMap (·.beatId) =
      spans.filterMap (·.beatId) ++ s.beatId.toList := by
    cases h : s.beatId <;> simp [h]
  rw [beatIds, hLast, eraseDups_append_toList]
  rfl

theorem aboutBeat_append_singleton_of_eq (spans : List StorySpan) (h : s.beatId = some id) :
    aboutBeat (spans ++ [s]) id = aboutBeat spans id ++ [s] := by
  simp [aboutBeat, h]

theorem aboutBeat_append_singleton_of_ne (spans : List StorySpan) (h : s.beatId ≠ some id) :
    aboutBeat (spans ++ [s]) id = aboutBeat spans id := by
  simp [aboutBeat, h]

theorem aboutBeat_eq_nil (h : id ∉ beatIds spans) : aboutBeat spans id = [] := by
  rw [aboutBeat, List.filter_eq_nil_iff]
  intro s hs hAbout
  exact h (mem_beatIds_iff.2 ⟨s, hs, beq_iff_eq.1 hAbout⟩)

/-! ## Groups -/

namespace BeatGroups

/-- A span about a beat that has no group begins one. -/
theorem join_of_not_mem {groups : List (String × List StorySpan)} (h : id ∉ groups.map (·.1)) :
    join id s groups = groups ++ [(id, [s])] := by
  induction groups with
  | nil => rfl
  | cons g rest ih =>
      rw [List.map_cons, List.mem_cons, not_or] at h
      rw [join, if_neg (Ne.symm h.1), ih h.2, List.cons_append]

/-- A span about a beat that has a group is put at its end, and no other group changes. -/
theorem join_map_of_mem {ids : List String} (hIds : ids.Nodup) (hMem : id ∈ ids)
    {before after : String → List StorySpan} (hHere : after id = before id ++ [s])
    (hOthers : ∀ other ≠ id, after other = before other) :
    join id s (ids.map fun i => (i, before i)) = ids.map fun i => (i, after i) := by
  induction ids with
  | nil => cases hMem
  | cons first rest ih =>
      obtain ⟨hFirst, hRest⟩ := List.nodup_cons.1 hIds
      rw [List.map_cons, List.map_cons, join]
      by_cases hSame : first = id
      · subst hSame
        have hLater : ∀ i ∈ rest, (i, before i) = (i, after i) := by
          intro i hi
          have hOther : i ≠ first := fun h => hFirst (h ▸ hi)
          rw [hOthers i hOther]
        rw [if_pos rfl, hHere, List.map_congr_left hLater]
      · have hLater : id ∈ rest := (List.mem_cons.1 hMem).resolve_left (Ne.symm hSame)
        rw [if_neg hSame, hOthers first hSame, ih hRest hLater]

/-- Every beat has the group of the spans about it, and the spans about no beat are apart. -/
structure Sorts (g : BeatGroups) (spans : List StorySpan) : Prop where
  beats : g.beats = (beatIds spans).map fun id => (id, aboutBeat spans id)
  others : g.others = spans.filter (·.beatId.isNone)

namespace Sorts

variable {g : BeatGroups}

theorem add (h : g.Sorts spans) (s : StorySpan) : (g.add s).Sorts (spans ++ [s]) := by
  have hIds := beatIds_append_singleton spans s
  rw [BeatGroups.add]
  cases hBeat : s.beatId with
  | none =>
      rw [hBeat] at hIds
      constructor
      · have hAbout : ∀ id, aboutBeat (spans ++ [s]) id = aboutBeat spans id := fun id =>
          aboutBeat_append_singleton_of_ne spans (by simp [hBeat])
        simpa [hIds, hAbout] using h.beats
      · simp [h.others, hBeat]
  | some id =>
      rw [hBeat] at hIds
      have hHere := aboutBeat_append_singleton_of_eq spans hBeat
      have hOthers : ∀ other ≠ id, aboutBeat (spans ++ [s]) other = aboutBeat spans other := by
        intro other hOther
        apply aboutBeat_append_singleton_of_ne
        rw [hBeat]
        exact fun hSame => hOther (Option.some.inj hSame).symm
      constructor
      · by_cases hKnown : id ∈ beatIds spans
        · have hSame : beatIds (spans ++ [s]) = beatIds spans := by simpa [hKnown] using hIds
          change join id s g.beats = _
          rw [h.beats, hSame]
          exact join_map_of_mem (nodup_eraseDups _) hKnown hHere hOthers
        · have hNew : beatIds (spans ++ [s]) = beatIds spans ++ [id] := by
            simpa [hKnown] using hIds
          have hEarlier : ∀ other ∈ beatIds spans,
              (other, aboutBeat (spans ++ [s]) other) = (other, aboutBeat spans other) := by
            intro other hOther
            have hApart : other ≠ id := fun hSame => hKnown (hSame ▸ hOther)
            rw [hOthers other hApart]
          have hNone : id ∉ g.beats.map (·.1) := by
            rw [h.beats, List.map_map]
            simpa [Function.comp_def] using hKnown
          change join id s g.beats = _
          rw [join_of_not_mem hNone, hNew, List.map_append, List.map_congr_left hEarlier, h.beats,
            List.map_singleton, hHere, aboutBeat_eq_nil hKnown, List.nil_append]
      · simp [h.others, hBeat]

end Sorts

theorem sorts_ofSpans (spans : List StorySpan) : (ofSpans spans).Sorts spans := by
  induction spans using List.reverseRecOn with
  | nil => exact ⟨rfl, rfl⟩
  | append_singleton before s ih =>
      rw [ofSpans, List.foldl_append]
      exact ih.add s

end BeatGroups

/-! ## Created beats -/

/-- Whether some span creates the beat. -/
def isCreated (spans : List StorySpan) (id : String) : Bool :=
  (aboutBeat spans id).any (·.kind == .beatCreated)

/-- Whether the span is about no beat, or about one that some span creates. -/
def isTold (spans : List StorySpan) (s : StorySpan) : Bool := s.beatId.all (isCreated spans)

/-- What a display tells of a beat: the span that creates it, and the others about it. -/
structure CreatedBeat where
  id : String
  creation : StorySpan
  others : List StorySpan

namespace CreatedBeat

/-- The heading of the beat with the tone of its creation, and the lines of the others. -/
def lines (b : CreatedBeat) : List String :=
  ("├─ 📝 Beat: " ++ b.id ++ " (" ++ b.creation.emotionalTone.getD "neutral" ++ ")") ::
    b.others.flatMap beatSpanLines

def told (b : CreatedBeat) : List StorySpan := b.creation :: b.others

/-- The beat is created by the first span about it that creates it, and the others are all other
spans about it, in their order. -/
structure ToldBy (b : CreatedBeat) (spans : List StorySpan) : Prop where
  creates : b.creation.kind = .beatCreated
  split : ∃ before after, aboutBeat spans b.id = before ++ b.creation :: after ∧
    (∀ s ∈ before, s.kind ≠ .beatCreated) ∧ b.others = before ++ after

theorem ToldBy.perm {b : CreatedBeat} (h : b.ToldBy spans) :
    b.told.Perm (aboutBeat spans b.id) := by
  obtain ⟨before, after, hAbout, -, hOthers⟩ := h.split
  rw [told, hAbout, hOthers]
  exact List.perm_middle.symm

/-- The beat that a group tells of, if one of its spans creates it. -/
def ofGroup? (id : String) (group : List StorySpan) : Option CreatedBeat :=
  (group.find? (·.kind == .beatCreated)).map fun creation =>
    ⟨id, creation, group.filter (·.id != creation.id)⟩

theorem beatLines_eq (id : String) (group : List StorySpan) :
    beatLines id group = (ofGroup? id group).toList.flatMap lines := by
  rw [beatLines, ofGroup?]
  cases group.find? (·.kind == .beatCreated) with
  | none => rfl
  | some creation => exact (List.flatMap_singleton ..).symm

theorem filter_ne_eq_append {before after : List StorySpan} {creation : StorySpan}
    (h : ((before ++ creation :: after).map (·.id)).Nodup) :
    (before ++ creation :: after).filter (·.id != creation.id) = before ++ after := by
  rw [List.map_append, List.map_cons, List.nodup_middle, List.nodup_cons, List.mem_append] at h
  obtain ⟨hBefore, hAfter⟩ := not_or.1 h.1
  have hKept {part : List StorySpan} (hPart : creation.id ∉ part.map (·.id)) :
      part.filter (·.id != creation.id) = part := by
    apply List.filter_eq_self.2
    intro s hs
    apply bne_iff_ne.2
    exact fun hSame => hPart (hSame ▸ List.mem_map_of_mem hs)
  rw [List.filter_append, List.filter_cons_of_neg (by simp), hKept hBefore, hKept hAfter]

theorem toldBy_of_ofGroup? {b : CreatedBeat} (h : (spans.map (·.id)).Nodup)
    (hGroup : ofGroup? id (aboutBeat spans id) = some b) : b.id = id ∧ b.ToldBy spans := by
  obtain ⟨creation, hFound, rfl⟩ := Option.map_eq_some_iff.1 hGroup
  obtain ⟨hKind, before, after, hAbout, hBefore⟩ := List.find?_eq_some_iff_append.1 hFound
  have hIds : ((before ++ creation :: after).map (·.id)).Nodup := by
    rw [← hAbout]
    exact h.sublist (List.filter_sublist.map _)
  refine ⟨rfl, beq_iff_eq.1 hKind, before, after, hAbout, ?_, ?_⟩
  · intro s hs
    simpa using hBefore s hs
  · exact hAbout ▸ filter_ne_eq_append hIds

theorem isSome_ofGroup? (spans : List StorySpan) (id : String) :
    (ofGroup? id (aboutBeat spans id)).isSome = isCreated spans id := by
  rw [ofGroup?, Option.isSome_map, isCreated, Bool.eq_iff_iff, List.find?_isSome, List.any_eq_true]

end CreatedBeat

open CreatedBeat

/-- The beats of which a display tells. -/
def createdBeats (spans : List StorySpan) : List CreatedBeat :=
  (beatIds spans).filterMap fun id => ofGroup? id (aboutBeat spans id)

theorem displayLines_eq (c : CompletedStory) :
    displayLines c = headingLines c ++ (createdBeats c.spans).flatMap lines ++
      otherLines (c.spans.filter (·.beatId.isNone)) ++ (c.metrics.map metricLines).getD [] := by
  obtain ⟨hBeats, hOthers⟩ := BeatGroups.sorts_ofSpans c.spans
  have hLines : (BeatGroups.ofSpans c.spans).beats.flatMap (fun g => beatLines g.1 g.2) =
      (createdBeats c.spans).flatMap lines := by
    rw [hBeats, List.flatMap_map, createdBeats, List.filterMap_eq_flatMap_toList,
      List.flatMap_assoc]
    simp only [beatLines_eq]
  rw [displayLines, hLines, hOthers]

theorem toldBy_of_mem_createdBeats (h : (spans.map (·.id)).Nodup) {b : CreatedBeat}
    (hb : b ∈ createdBeats spans) : b.ToldBy spans := by
  obtain ⟨id, -, hGroup⟩ := List.mem_filterMap.1 hb
  exact (toldBy_of_ofGroup? h hGroup).2

theorem map_id_createdBeats (spans : List StorySpan) :
    (createdBeats spans).map (·.id) = (beatIds spans).filter (isCreated spans) := by
  rw [createdBeats, List.map_filterMap]
  induction beatIds spans with
  | nil => rfl
  | cons id rest ih =>
      have hSome := isSome_ofGroup? spans id
      rw [List.filterMap_cons, List.filter_cons, ← hSome, ih]
      cases h : ofGroup? id (aboutBeat spans id) with
      | none => rfl
      | some b =>
          obtain ⟨creation, -, rfl⟩ := Option.map_eq_some_iff.1 h
          rfl

/-- The spans of created beats and those about no beat are all that are told, each once. -/
theorem told_createdBeats_perm (h : (spans.map (·.id)).Nodup) :
    ((createdBeats spans).flatMap CreatedBeat.told ++ spans.filter (·.beatId.isNone)).Perm
      (spans.filter (isTold spans)) := by
  have hBeats : ((createdBeats spans).flatMap CreatedBeat.told).Perm
      (((beatIds spans).filter (isCreated spans)).flatMap (aboutBeat spans)) := by
    rw [← map_id_createdBeats, List.flatMap_map]
    exact List.Perm.flatMap_left _ fun b hb => (toldBy_of_mem_createdBeats h hb).perm
  have hGathered := flatMap_filter_perm spans StorySpan.beatId
    ((nodup_eraseDups (spans.filterMap (·.beatId))).filter (isCreated spans))
  refine ((hBeats.trans hGathered).append_right _).trans (filter_append_filter_perm ?apart ?either)
  case apart =>
    intro s _ hAbout
    cases hBeat : s.beatId with
    | none => simp [hBeat] at hAbout
    | some id => rfl
  case either =>
    intro s hs
    cases hBeat : s.beatId with
    | none => simp [isTold, hBeat]
    | some id =>
        have hKnown : id ∈ (spans.filterMap (·.beatId)).eraseDups :=
          mem_beatIds_iff.2 ⟨s, hs, hBeat⟩
        cases hCreated : isCreated spans id <;> simp [isTold, hBeat, hCreated, hKnown]

/-! ## Lines -/

/-- The text of a value that is a string, a number or a truth value. -/
inductive Scalar : Json → String → Prop
  | string (s : String) : Scalar (.string s) s
  | number (n : Json.Number) : Scalar (.number n) n.text
  | true : Scalar (.bool true) "true"
  | false : Scalar (.bool false) "false"

theorem scalar?_eq_some_iff {v : Json} {text : String} : scalar? v = some text ↔ Scalar v text := by
  constructor
  · intro h
    cases v with
    | null => cases h
    | bool b =>
        cases b with
        | true => cases h; exact .true
        | false => cases h; exact .false
    | number n => cases h; exact .number n
    | string s => cases h; exact .string _
    | array items => cases h
    | object members => cases h
  · intro h
    cases h <;> rfl

/-- The line of a span is followed by one for each scalar entry of its output, in the order of their
keys. -/
theorem beatSpanLines_eq (h : s.output.Sorted) :
    ∃ entries : Table String, entries.Sorted ∧
      (∀ key text, entries.get? key = some text ↔
        ∃ v, s.output.get? key = some v ∧ Scalar v text) ∧
      beatSpanLines s = ("│  ├─ " ++ s.kind.displayName) ::
        entries.map (fun e => "│  │  └─ " ++ e.1 ++ ": " ++ e.2) := by
  let entry (e : String × Json) : Option (String × String) := (scalar? e.2).map (e.1, ·)
  have hKey {e : String × Json} {f : String × String} (hEntry : entry e = some f) :
      e.1 = f.1 ∧ scalar? e.2 = some f.2 := by
    obtain ⟨text, hText, rfl⟩ := Option.map_eq_some_iff.1 hEntry
    exact ⟨rfl, hText⟩
  have hSorted : Table.Sorted (s.output.filterMap entry) := by
    apply h.filterMap
    intro e f hLess e' he f' hf
    rw [← (hKey he).1, ← (hKey hf).1]
    exact hLess
  refine ⟨s.output.filterMap entry, hSorted, fun key text => ?found, ?lines⟩
  case found =>
    rw [hSorted.get?_eq_some_iff, List.mem_filterMap]
    constructor
    · rintro ⟨⟨k, v⟩, hMem, hEntry⟩
      obtain ⟨rfl, hText⟩ := hKey hEntry
      exact ⟨v, h.get?_eq_some_iff.2 hMem, scalar?_eq_some_iff.1 hText⟩
    · rintro ⟨v, hFound, hScalar⟩
      have hText := scalar?_eq_some_iff.2 hScalar
      exact ⟨(key, v), Table.mem_of_get? hFound, by simp [entry, hText]⟩
  case lines =>
    rw [beatSpanLines, spanLine, List.map_filterMap]
    simp only [entry, Option.map_map]
    rfl

/-- Every span that belongs to no beat has one line, below a line that sets them apart. -/
theorem otherLines_eq (spans : List StorySpan) :
    otherLines spans = (if spans = [] then [] else ["│"]) ++
      spans.map (fun s => "├─ " ++ s.kind.displayName ++
        (s.leadUniverse.map (" (lead: " ++ · ++ ")")).getD "") := by
  have hLine (s : StorySpan) : otherLine s = "├─ " ++ s.kind.displayName ++
      (s.leadUniverse.map (" (lead: " ++ · ++ ")")).getD "" := by
    rw [otherLine]
    cases s.leadUniverse <;> rfl
  cases spans with
  | nil => rfl
  | cons s rest => simp [otherLines, hLine]

/-! ## Displays -/

/-- A span of a story about the given beat, if any. -/
def toldSpan (id : String) (kind : StoryKind) (beatId emotionalTone : Option String) : StorySpan :=
  { StorySpan.new id "t1" kind "story" ⟨1700000000, 0⟩ with beatId, emotionalTone }

/-- The beat `b1` is analyzed before it is created, and created once more later on; `b2` comes up
second, `b3` is never created, and one span is about no beat. -/
def revisedStory : CompletedStory :=
  { traceId := "t1"
    storyId := "story"
    sessionId := "session"
    spans := [{ toldSpan "s1" .beatAnalyzed (some "b1") none with
        output := [("depth", .number (.int 3)), ("parts", .array []), ("sure", .bool true)] },
      toldSpan "s2" .beatCreated (some "b2") (some "calm"),
      toldSpan "s3" .beatEnriched (some "b3") none,
      toldSpan "s4" .beatCreated (some "b1") (some "dark"),
      { toldSpan "s5" .universeAnalysis none none with leadUniverse := some "engineer" },
      toldSpan "s6" .beatCreated (some "b1") (some "bright")]
    startTime := ⟨1700000000, 0⟩
    endTime := ⟨1700000000, 0⟩
    durationMs := 0
    metrics := none
    content := none
    beatCount := 3
    correlation := none }

end StoryTrace.Report
