import StoryTrace.Proofs.Event.Codec
import StoryTrace.Proofs.Table

/-!
# Payloads

An object survives on a line exactly if its keys are sorted and all its members survive one level
deeper. So what survives can be merged.
-/

namespace StoryTrace

namespace Json

theorem canonicalMembers_eq_map (members : List (String × Json)) :
    canonicalMembers members = members.map fun e => (e.1, e.2.canonical) := by
  induction members with
  | nil => rfl
  | cons e rest ih => rw [canonicalMembers, ih, List.map_cons]

/-- A member of an object that survives. -/
structure PortableMember (v : Json) : Prop where
  canonical : v.canonical = v
  legible : v.Legible (payloadDepth - 1)

theorem portableMember_null : null.PortableMember := ⟨rfl, trivial⟩

theorem portableMember_string (s : String) : (string s).PortableMember := ⟨rfl, trivial⟩

theorem portableMember_ofOption_string (s : Option String) :
    (ofOption string s).PortableMember := by
  cases s with
  | none => exact portableMember_null
  | some s => exact portableMember_string s

theorem portableMember_ofStrings (texts : List String) : (ofStrings texts).PortableMember := by
  have hCanonical : canonicalItems (texts.map string) = texts.map string := by
    induction texts with
    | nil => rfl
    | cons text rest ih => exact congrArg (string text :: ·) ih
  have hLegible : LegibleItems (payloadDepth - 1 - 1) (texts.map string) := by
    clear hCanonical
    induction texts with
    | nil => trivial
    | cons text rest ih => exact ⟨trivial, ih⟩
  exact ⟨congrArg array hCanonical, by decide, hLegible⟩

theorem portable_object_iff {m : Metadata} :
    (object m).Portable ↔ m.Sorted ∧ ∀ e ∈ m, e.2.PortableMember := by
  constructor
  · rintro ⟨hCanonical, hDepth, hMembers⟩
    have hTable : Table.ofList (canonicalMembers m) = m := object.inj hCanonical
    have hSorted : m.Sorted := hTable ▸ Table.sorted_ofList _
    have hKeys : Table.Sorted (canonicalMembers m) := by
      rw [canonicalMembers_eq_map]
      exact List.pairwise_map.2 hSorted
    have hSame : m.map (fun e => (e.1, e.2.canonical)) = m.map id := by
      rw [List.map_id, ← canonicalMembers_eq_map, ← Table.ofList_of_sorted hKeys, hTable]
    refine ⟨hSorted, fun e he => ⟨?_, legibleMembers_iff.1 hMembers e he⟩⟩
    exact congrArg Prod.snd (List.map_inj_left.1 hSame e he)
  · rintro ⟨hSorted, hMembers⟩
    have hSame : canonicalMembers m = m := by
      rw [canonicalMembers_eq_map, List.map_congr_left (g := id), List.map_id]
      exact fun e he => congrArg (e.1, ·) (hMembers e he).canonical
    refine ⟨?_, by decide, legibleMembers_iff.2 fun e he => (hMembers e he).legible⟩
    rw [canonical, hSame, Table.ofList_of_sorted hSorted]

theorem portable_ofList {entries : List (String × Json)} (h : ∀ e ∈ entries, e.2.PortableMember) :
    (object (Table.ofList entries)).Portable := by
  refine portable_object_iff.2 ⟨Table.sorted_ofList entries, fun e he => h e ?_⟩
  exact (Table.mem_of_mem_merge he).resolve_left List.not_mem_nil

theorem Portable.merge {m more : Metadata} (h : (object m).Portable)
    (hMore : (object more).Portable) : (object (m.merge more)).Portable := by
  obtain ⟨hSorted, hMembers⟩ := portable_object_iff.1 h
  obtain ⟨-, hMoreMembers⟩ := portable_object_iff.1 hMore
  refine portable_object_iff.2 ⟨hSorted.merge more, fun e he => ?_⟩
  exact (Table.mem_of_mem_merge he).elim (hMembers e) (hMoreMembers e)

end Json

end StoryTrace
