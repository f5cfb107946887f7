import StoryTrace.Proofs.Event.Payload
import StoryTrace.Proofs.Json.Fields
import StoryTrace.Story.Metrics

/-!
# Metrics read back

Metrics whose numbers are all finite are read back from their own JSON value.
-/

namespace StoryTrace

namespace Json

theorem written_map_some (members : List (String × Json)) :
    written (members.map fun e => (e.1, some e.2)) = members := by
  induction members with
  | nil => rfl
  | cons e rest ih => exact congrArg (e :: ·) ih

/-- A reader finds every member of an object with distinct keys under its key. -/
theorem Layout.withDefault_of_mem {α : Type} {members : List (String × Json)} {key : String}
    {v : Json} (hKeys : (members.map (·.1)).Nodup) (h : (key, v) ∈ members) (index : Nat)
    {absent a : α} {read : Json → Option α} (hRead : read v = some a) :
    (named members).withDefault index key absent read = some a := by
  have hFields : ((members.map fun e => (e.1, some e.2)).map (·.1)).Nodup := by
    rwa [List.map_map]
  have hOne := filter_written hFields (List.mem_map_of_mem (f := fun e => (e.1, some e.2)) h)
  rw [written_map_some] at hOne
  rw [withDefault, slot?, hOne]
  exact hRead

theorem float?_ofFloat {x : Float} (h : x.isFinite = true) : (ofFloat x).float? = some x := by
  rw [ofFloat, if_pos h]
  rfl

theorem canonical_ofFloat (x : Float) : (ofFloat x).canonical = ofFloat x := by
  unfold ofFloat
  split <;> rfl

theorem nat32?_ofNat {n : Nat} (h : n < UInt32.size) : nat32? (ofNat n) = some n := by
  rw [nat32?, ofNat, natBelow?, if_pos ⟨Int.natCast_nonneg n, Int.ofNat_lt.2 h⟩]
  rfl

end Json

namespace StoryMetrics

open Json

/-- All scores and times. -/
def floats (m : StoryMetrics) : List Float :=
  [m.coherence, m.emotionalArc, m.themeClarity, m.dialogue, m.relationshipDepth, m.engineer,
    m.ceremony, m.storyEngine, m.crossUniverse, m.totalMs, m.averageBeatMs]

def counts (m : StoryMetrics) : List Nat :=
  [m.beats, m.enrichments, m.remediations, m.decisions]

/-- All numbers are finite. The arcs are a table, and the counts have 32 bits. -/
structure Finite (m : StoryMetrics) : Prop where
  floats : ∀ x ∈ m.floats, x.isFinite = true
  arcs : ∀ e ∈ m.arcs, e.2.isFinite = true
  sorted : m.arcs.Sorted
  counts : ∀ n ∈ m.counts, n < UInt32.size

theorem finite_default : default.Finite where
  floats := by
    have hHalf : (0.5 : Float).isFinite = true := rfl
    have hZero : (0.0 : Float).isFinite = true := rfl
    simp [StoryMetrics.floats, default, hHalf, hZero]
  arcs := List.forall_mem_nil _
  sorted := List.Pairwise.nil
  counts := by decide

theorem arcs?_ofFloats {arcs : Table Float} (hFinite : ∀ e ∈ arcs, e.2.isFinite = true)
    (hSorted : arcs.Sorted) :
    arcs? (.object (arcs.map fun e => (e.1, ofFloat e.2))) = some arcs := by
  have hRead : (arcs.map fun e => (e.1, ofFloat e.2)).mapM
      (fun e : String × Json => e.2.float?.map fun x => (e.1, x)) = some arcs := by
    clear hSorted
    induction arcs with
    | nil => rfl
    | cons e rest ih =>
        obtain ⟨hHere, hRest⟩ := List.forall_mem_cons.1 hFinite
        simp [List.mapM_cons, float?_ofFloat hHere, ih hRest]
  rw [arcs?, object?, Option.bind_some, hRead, Option.map_some, Table.ofList_of_sorted hSorted]

/-- The members of the JSON value. -/
def members (m : StoryMetrics) : List (String × Json) :=
  [("coherence_score", .ofFloat m.coherence), ("emotional_arc_strength", .ofFloat m.emotionalArc),
    ("theme_clarity", .ofFloat m.themeClarity), ("dialogue_consistency", .ofFloat m.dialogue),
    ("character_arc_completion", .object (m.arcs.map fun e => (e.1, .ofFloat e.2))),
    ("relationship_depth", .ofFloat m.relationshipDepth),
    ("engineer_alignment", .ofFloat m.engineer), ("ceremony_alignment", .ofFloat m.ceremony),
    ("story_engine_alignment", .ofFloat m.storyEngine),
    ("cross_universe_coherence", .ofFloat m.crossUniverse), ("beats_generated", .ofNat m.beats),
    ("enrichments_applied", .ofNat m.enrichments), ("gaps_remediated", .ofNat m.remediations),
    ("routing_decisions", .ofNat m.decisions), ("total_generation_time_ms", .ofFloat m.totalMs),
    ("average_beat_time_ms", .ofFloat m.averageBeatMs)]

theorem canonical_toJson {m : StoryMetrics} (hSorted : m.arcs.Sorted) :
    m.toJson.canonical = .object (Table.ofList m.members) := by
  have hArcs : (Json.object (m.arcs.map fun e => (e.1, ofFloat e.2))).canonical =
      .object (m.arcs.map fun e => (e.1, ofFloat e.2)) := by
    have hTable : Table.Sorted (m.arcs.map fun e => (e.1, ofFloat e.2)) :=
      List.pairwise_map.2 hSorted
    have hMembers : canonicalMembers (m.arcs.map fun e => (e.1, ofFloat e.2)) =
        m.arcs.map fun e => (e.1, ofFloat e.2) := by
      rw [canonicalMembers_eq_map, List.map_map]
      exact List.map_congr_left fun e _ => congrArg (e.1, ·) (canonical_ofFloat e.2)
    rw [canonical, hMembers, Table.ofList_of_sorted hTable]
  have hMembers : canonicalMembers m.members = m.members := by
    simp only [members, canonicalMembers, canonical_ofFloat, hArcs]
    rfl
  rw [show m.toJson = .object m.members from rfl, canonical, hMembers]

theorem ofJson?_canonical_toJson {m : StoryMetrics} (h : m.Finite) :
    ofJson? m.toJson.canonical = some m := by
  have hKeys : ((Table.ofList m.members).map (·.1)).Nodup := (Table.sorted_ofList _).nodup_keys
  have hMember {key : String} {v : Json} (hv : (key, v) ∈ m.members) :
      (key, v) ∈ Table.ofList m.members :=
    Table.mem_ofList (by simp [members]) hv
  have hFloat {key : String} {x : Float} (index : Nat) (absent : Float)
      (hx : (key, .ofFloat x) ∈ m.members) (hFinite : x ∈ m.floats) :
      (Layout.named (Table.ofList m.members)).withDefault index key absent float? = some x :=
    Layout.withDefault_of_mem hKeys (hMember hx) index (float?_ofFloat (h.floats x hFinite))
  have hCount {key : String} {n : Nat} (index absent : Nat)
      (hn : (key, .ofNat n) ∈ m.members) (hFits : n ∈ m.counts) :
      (Layout.named (Table.ofList m.members)).withDefault index key absent nat32? = some n := by
    have hRead := nat32?_ofNat (h.counts n hFits)
    exact Layout.withDefault_of_mem hKeys (hMember hn) index hRead
  rw [canonical_toJson h.sorted, ofJson?]
  refine Option.bind_eq_some_iff.2 ⟨Layout.named (Table.ofList m.members), rfl, ?_⟩
  refine Option.bind_eq_some_iff.2
    ⟨m.coherence, hFloat 0 _ (by simp [members]) (by simp [floats]), ?_⟩
  refine Option.bind_eq_some_iff.2
    ⟨m.emotionalArc, hFloat 1 _ (by simp [members]) (by simp [floats]), ?_⟩
  refine Option.bind_eq_some_iff.2
    ⟨m.themeClarity, hFloat 2 _ (by simp [members]) (by simp [floats]), ?_⟩
  refine Option.bind_eq_some_iff.2
    ⟨m.dialogue, hFloat 3 _ (by simp [members]) (by simp [floats]), ?_⟩
  refine Option.bind_eq_some_iff.2
    ⟨m.arcs, Layout.withDefault_of_mem hKeys (hMember (by simp [members])) 4
      (arcs?_ofFloats h.arcs h.sorted), ?_⟩
  refine Option.bind_eq_some_iff.2
    ⟨m.relationshipDepth, hFloat 5 _ (by simp [members]) (by simp [floats]), ?_⟩
  refine Option.bind_eq_some_iff.2
    ⟨m.engineer, hFloat 6 _ (by simp [members]) (by simp [floats]), ?_⟩
  refine Option.bind_eq_some_iff.2
    ⟨m.ceremony, hFloat 7 _ (by simp [members]) (by simp [floats]), ?_⟩
  refine Option.bind_eq_some_iff.2
    ⟨m.storyEngine, hFloat 8 _ (by simp [members]) (by simp [floats]), ?_⟩
  refine Option.bind_eq_some_iff.2
    ⟨m.crossUniverse, hFloat 9 _ (by simp [members]) (by simp [floats]), ?_⟩
  refine Option.bind_eq_some_iff.2 ⟨m.beats, hCount 10 _ (by simp [members]) (by simp [counts]), ?_⟩
  refine Option.bind_eq_some_iff.2
    ⟨m.enrichments, hCount 11 _ (by simp [members]) (by simp [counts]), ?_⟩
  refine Option.bind_eq_some_iff.2
    ⟨m.remediations, hCount 12 _ (by simp [members]) (by simp [counts]), ?_⟩
  refine Option.bind_eq_some_iff.2
    ⟨m.decisions, hCount 13 _ (by simp [members]) (by simp [counts]), ?_⟩
  refine Option.bind_eq_some_iff.2
    ⟨m.totalMs, hFloat 14 _ (by simp [members]) (by simp [floats]), ?_⟩
  refine Option.bind_eq_some_iff.2
    ⟨m.averageBeatMs, hFloat 15 _ (by simp [members]) (by simp [floats]), ?_⟩
  rfl

end StoryMetrics

end StoryTrace
