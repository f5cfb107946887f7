import Mathlib.Data.List.Basic
import Mathlib.Data.List.Induction
import Mathlib.Data.List.Nodup

/-!
# First places

Several texts without repetitions, each where it first comes up, and items gathered under distinct
texts.
-/

namespace StoryTrace

/-- The next of several texts stands at the end, unless it is there already. -/
theorem eraseDups_append_toList (ids : List String) (next : Option String) :
    (ids ++ next.toList).eraseDups =
      ids.eraseDups ++ next.toList.filter fun id => !ids.eraseDups.contains id := by
  cases next with
  | none => simp
  | some id =>
      rw [List.eraseDups_append, Option.toList_some]
      by_cases hKnown : id ∈ ids
      · simp [List.removeAll, hKnown]
      · simp [List.removeAll, hKnown, List.eraseDups_cons]

theorem nodup_eraseDups (ids : List String) : ids.eraseDups.Nodup := by
  induction ids using List.reverseRecOn with
  | nil => exact List.nodup_nil
  | append_singleton before id ih =>
      rw [show before ++ [id] = before ++ (some id).toList from rfl, eraseDups_append_toList,
        List.nodup_append]
      refine ⟨ih, (List.nodup_singleton id).filter _, ?_⟩
      rintro a ha b hb rfl
      simp only [List.mem_filter, Bool.not_eq_true', List.contains_eq_mem,
        decide_eq_false_iff_not] at hb
      exact hb.2 ha

section

variable {α : Type} {items : List α}

/-- Items with one of two properties that exclude each other, those with the first one before the
others. -/
theorem filter_append_filter_perm {p q r : α → Bool} (hApart : ∀ a ∈ items, p a = true → q a = false)
    (hEither : ∀ a ∈ items, r a = (p a || q a)) :
    (items.filter p ++ items.filter q).Perm (items.filter r) := by
  have hLeft : items.filter p = (items.filter r).filter p := by
    rw [List.filter_filter]
    apply List.filter_congr
    intro a ha
    cases hp : p a <;> simp [hEither a ha, hp]
  have hRight : items.filter q = (items.filter r).filter fun a => !p a := by
    rw [List.filter_filter]
    apply List.filter_congr
    intro a ha
    cases hp : p a with
    | true => simp [hApart a ha hp]
    | false => simp [hEither a ha, hp]
  rw [hLeft, hRight]
  exact List.filter_append_perm p _

/-- Items gathered under distinct texts are all those that belong under one of them. -/
theorem flatMap_filter_perm (items : List α) (key : α → Option String) {ids : List String}
    (h : ids.Nodup) :
    (ids.flatMap fun id => items.filter fun a => key a == some id).Perm
      (items.filter fun a => (key a).any ids.contains) := by
  induction ids with
  | nil =>
      have hNone : items.filter (fun a => (key a).any [].contains) = [] :=
        List.filter_eq_nil_iff.2 fun a _ => by cases key a <;> simp
      rw [List.flatMap_nil, hNone]
  | cons id rest ih =>
      obtain ⟨hNew, hRest⟩ := List.nodup_cons.1 h
      rw [List.flatMap_cons]
      refine ((ih hRest).append_left _).trans (filter_append_filter_perm ?apart ?either)
      case apart =>
        intro a _ hHere
        rw [beq_iff_eq.1 hHere]
        simpa using hNew
      case either =>
        intro a _
        cases hKey : key a with
        | none => rfl
        | some other =>
            by_cases hSame : other = id
            · simp [hSame]
            · simp [hSame]

end

end StoryTrace
