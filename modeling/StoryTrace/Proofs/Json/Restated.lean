import Mathlib.Data.List.Nodup
import StoryTrace.Proofs.Event.Payload
import StoryTrace.Proofs.Json.Members

/-!
# Objects that say the same

The form of a record names its fields and says which values of a field are alike. Two objects
restate each other when they give alike values under each of the names. The order of their members
does not count, and neither do members of other names, at any depth.
-/

namespace StoryTrace

namespace Table

variable {α : Type} {entries others : List (String × α)}

/-- Entries under distinct keys are just those of the table that is made of them. -/
theorem perm_ofList (hKeys : (entries.map (·.1)).Nodup) : (ofList entries).Perm entries := by
  have hSorted : (ofList entries).Sorted := sorted_ofList entries
  refine (List.perm_ext_iff_of_nodup (List.Nodup.of_map _ hSorted.nodup_keys)
    (List.Nodup.of_map _ hKeys)).2 fun e => ?_
  exact ⟨fun he => (mem_of_mem_merge he).resolve_left List.not_mem_nil, mem_ofList hKeys⟩

theorem ofList_eq_of_perm (hKeys : (entries.map (·.1)).Nodup) (h : entries.Perm others) :
    ofList entries = ofList others := by
  have hOtherKeys : (others.map (·.1)).Nodup := (h.map _).nodup hKeys
  have hPerm : (ofList entries).Perm (ofList others) :=
    (perm_ofList hKeys).trans (h.trans (perm_ofList hOtherKeys).symm)
  refine hPerm.eq_of_pairwise (fun a b _ _ hab hba => ?_) (sorted_ofList _) (sorted_ofList _)
  exact absurd hba (String.lt_asymm hab)

end Table

namespace Json

/-! ## Alike values -/

/-- The names of the fields of a record, each with the values of the field that are alike. -/
abbrev Form := List (String × (Json → Json → Prop))

/-- Two values that the form cannot tell apart. -/
def Restates (form : Form) (v w : Json) : Prop :=
  v = w ∨ ∃ members others, v = .object members ∧ w = .object others ∧
    ∀ f ∈ form, Matched f.2 (under members f.1) (under others f.1)

/-- Free-form values that denote the same. -/
def SameValue (v w : Json) : Prop := v.canonical = w.canonical

/-- The same members in any order, when no key is repeated. -/
def SameMembers (v w : Json) : Prop :=
  v = w ∨ ∃ members others, v = .object members ∧ w = .object others ∧
    (members.map (·.1)).Nodup ∧ members.Perm others

/-- Arrays whose items are alike, one by one. -/
def SameItems (related : Json → Json → Prop) (v w : Json) : Prop :=
  v = w ∨ ∃ items others, v = .array items ∧ w = .array others ∧
    List.Forall₂ related items others

variable {form : Form} {members others : List (String × Json)} {v w : Json}

/-- Members of known names may stand in any order and among any others. -/
theorem restates_of_perm (hRefl : ∀ f ∈ form, ∀ v, f.2 v v)
    (h : (members.filter (·.1 ∈ form.map (·.1))).Perm (others.filter (·.1 ∈ form.map (·.1)))) :
    Restates form (.object members) (.object others) :=
  .inr ⟨members, others, rfl, rfl, fun f hf =>
    matched_of_perm (hRefl f hf) (under_perm (List.mem_map_of_mem hf) h)⟩

theorem isNull_canonical (v : Json) : v.canonical.isNull = v.isNull := by
  cases v <;> rfl

theorem metadata?_eq_canonical (v : Json) : v.metadata? = v.canonical.object? := by
  cases v <;> rfl

/-! ## Readers that see no difference -/

variable {α : Type} {related : Json → Json → Prop} {read : Json → Option α}

theorem keeps_canonical : Keeps SameValue fun v => some v.canonical := by
  intro v w h
  refine ⟨?_, congrArg some h⟩
  rw [← isNull_canonical v, ← isNull_canonical w, h]

theorem keeps_metadata : Keeps SameValue metadata? := by
  intro v w h
  refine ⟨(keeps_canonical v w h).1, ?_⟩
  rw [metadata?_eq_canonical, metadata?_eq_canonical, h]

theorem keeps_restates (h : ∀ v w, Restates form v w → read v = read w) :
    Keeps (Restates form) read := by
  intro v w hSame
  refine ⟨?_, h v w hSame⟩
  obtain rfl | ⟨_, _, rfl, rfl, -⟩ := hSame <;> rfl

/-- Items that are read alike make up lists that are read alike. -/
theorem mapM_eq_of_forall₂ {items others : List Json} (hItems : List.Forall₂ related items others)
    (h : ∀ v w, related v w → read v = read w) : items.mapM read = others.mapM read := by
  induction hItems with
  | nil => rfl
  | cons hFirst _ ih => rw [List.mapM_cons, List.mapM_cons, h _ _ hFirst, ih]

theorem keeps_items (h : ∀ v w, related v w → read v = read w) :
    Keeps (SameItems related) fun v => v.array?.bind (·.mapM read) := by
  rintro v w (rfl | ⟨items, others, rfl, rfl, hItems⟩)
  · exact ⟨rfl, rfl⟩
  · exact ⟨rfl, mapM_eq_of_forall₂ hItems h⟩

namespace Layout

variable {key : String} {index : Nat} (h : Matched SameValue (under members key) (under others key))
include h

theorem optionalValue_eq :
    (named members).optionalValue index key = (named others).optionalValue index key :=
  optional_eq h keeps_canonical

theorem metadata_eq : (named members).metadata index key = (named others).metadata index key :=
  withDefault_eq h keeps_metadata

end Layout

end Json

end StoryTrace
