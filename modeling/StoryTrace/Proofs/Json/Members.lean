import Mathlib.Data.List.Perm.Basic
import Mathlib.Data.Option.Basic
import StoryTrace.Json.Layout

/-!
# What a reader sees of an object

The reader of a record sees an object field by field: the values that the object gives under the
name of the field. It reads the field when there is one value and the field allows it. Two objects
that give alike values under every name of a record, in any order and among any other members, are
read alike.
-/

namespace StoryTrace.Json

/-- The values that an object gives under a name. -/
def under (members : List (String × Json)) (key : String) : List Json :=
  (members.filter (·.1 = key)).map (·.2)

/-- The object gives the name one value, and that value is allowed. -/
def Gives (members : List (String × Json)) (key : String) (allowed : Json → Prop) : Prop :=
  ∃ v, under members key = [v] ∧ allowed v

/-- The object leaves the name out, or gives it null or one allowed value. -/
def MayGive (members : List (String × Json)) (key : String) (allowed : Json → Prop) : Prop :=
  under members key = [] ∨ Gives members key fun v => v = .null ∨ allowed v

/-- The same values up to their order, each replaced by a related one. -/
def Matched (related : Json → Json → Prop) (values others : List Json) : Prop :=
  ∃ between, List.Forall₂ related values between ∧ between.Perm others

variable {members others : List (String × Json)} {key : String} {index : Nat}

theorem isNull_iff {v : Json} : v.isNull = true ↔ v = .null := by
  cases v <;> simp [isNull]

theorem matched_of_perm {related : Json → Json → Prop} {values others : List Json}
    (hRefl : ∀ v, related v v) (h : values.Perm others) : Matched related values others :=
  ⟨values, List.forall₂_same.2 fun v _ => hRefl v, h⟩

/-- Members that are the same up to their order, apart from those of other names, give the same
values under each of the names. -/
theorem under_perm {names : List String} (hKey : key ∈ names)
    (h : (members.filter (·.1 ∈ names)).Perm (others.filter (·.1 ∈ names))) :
    (under members key).Perm (under others key) := by
  have hFilter (ms : List (String × Json)) :
      under ms key = under (ms.filter (·.1 ∈ names)) key := by
    rw [under, under, List.filter_filter]
    congr 1
    refine List.filter_congr fun e _ => ?_
    by_cases hName : e.1 = key <;> simp [hName, hKey]
  rw [hFilter members, hFilter others]
  exact (h.filter _).map _

namespace Layout

theorem slot?_named : (named members).slot? index key =
    match under members key with
    | [] => some none
    | [v] => some (some v)
    | _ => none := by
  simp only [slot?, under]
  cases members.filter (·.1 = key) with
  | nil => rfl
  | cons e more => cases more <;> rfl

/-! ## Fields that can be read -/

section Readable

variable {α : Type} {read : Json → Option α}

theorem isSome_required_iff : ((named members).required index key read).isSome = true ↔
    Gives members key fun v => (read v).isSome = true := by
  rw [required, slot?_named, Gives]
  match under members key with
  | [] => simp
  | [v] => simp
  | _ :: _ :: _ => simp

theorem isSome_optional_iff : ((named members).optional index key read).isSome = true ↔
    MayGive members key fun v => (read v).isSome = true := by
  rw [optional, withDefault, slot?_named, MayGive, Gives]
  match under members key with
  | [] => simp
  | [v] => by_cases hNull : v.isNull = true <;> simp [hNull, ← isNull_iff]
  | _ :: _ :: _ => simp

theorem isSome_optionalValue_iff : ((named members).optionalValue index key).isSome = true ↔
    MayGive members key fun _ => True := by
  rw [optionalValue, isSome_optional_iff]
  simp only [Option.isSome_some]

end Readable

/-! ## Fields that are read alike -/

section Alike

variable {related : Json → Json → Prop}

theorem slot?_related (h : Matched related (under members key) (under others key)) :
    Option.Rel (Option.Rel related) ((named members).slot? index key)
      ((named others).slot? index key) := by
  obtain ⟨between, hRelated, hPerm⟩ := h
  rw [slot?_named, slot?_named]
  match hValues : under members key, hRelated with
  | [], .nil =>
      rw [List.nil_perm.1 hPerm]
      exact .some .none
  | [v], .cons hv .nil =>
      rw [← List.singleton_perm.1 hPerm]
      exact .some (.some hv)
  | _ :: _ :: _, .cons _ (.cons _ _) =>
      have hLength := hPerm.length_eq
      match hOthers : under others key with
      | [] => simp [hOthers] at hLength
      | [_] => simp [hOthers] at hLength
      | _ :: _ :: _ => exact .none

theorem bind_eq_of_related {β : Type} {x y : Option (Option Json)} {f : Option Json → Option β}
    (h : Option.Rel (Option.Rel related) x y)
    (hRead : ∀ v w, related v w → f (some v) = f (some w)) : x.bind f = y.bind f := by
  cases h with
  | none => rfl
  | some h =>
      cases h with
      | none => rfl
      | some h => exact hRead _ _ h

end Alike

end Layout

/-- The reader reads related values alike, and they are null together. -/
def Keeps {α : Type} (related : Json → Json → Prop) (read : Json → Option α) : Prop :=
  ∀ v w, related v w → v.isNull = w.isNull ∧ read v = read w

theorem keeps_eq {α : Type} (read : Json → Option α) : Keeps Eq read := by
  rintro v _ rfl
  exact ⟨rfl, rfl⟩

namespace Layout

section Alike

variable {α : Type} {related : Json → Json → Prop} {read : Json → Option α}
  (h : Matched related (under members key) (under others key)) (hKeeps : Keeps related read)
include h hKeeps

theorem required_eq :
    (named members).required index key read = (named others).required index key read :=
  bind_eq_of_related (slot?_related h) fun v w hSame => (hKeeps v w hSame).2

theorem withDefault_eq {absent : α} : (named members).withDefault index key absent read =
    (named others).withDefault index key absent read :=
  bind_eq_of_related (slot?_related h) fun v w hSame => (hKeeps v w hSame).2

theorem optional_eq :
    (named members).optional index key read = (named others).optional index key read := by
  refine bind_eq_of_related (slot?_related h) fun v w hSame => ?_
  obtain ⟨hNull, hRead⟩ := hKeeps v w hSame
  simp only [hNull, hRead]

end Alike

end Layout

end StoryTrace.Json
