import Mathlib.Data.List.Basic

/-!
# Interleaved lists

Two lists in one, each in its own order.
-/

namespace StoryTrace

/-- The third list takes its items from the two others, in the order of each. -/
inductive Interleaved {α : Type} : List α → List α → List α → Prop where
  | nil : Interleaved [] [] []
  | left {a : α} {xs ys zs : List α} (rest : Interleaved xs ys zs) :
    Interleaved (a :: xs) ys (a :: zs)
  | right {a : α} {xs ys zs : List α} (rest : Interleaved xs ys zs) :
    Interleaved xs (a :: ys) (a :: zs)

namespace Interleaved

variable {α : Type} {xs ys zs : List α}

theorem symm (h : Interleaved xs ys zs) : Interleaved ys xs zs := by
  induction h with
  | nil => exact .nil
  | left _ ih => exact .right ih
  | right _ ih => exact .left ih

theorem mem_iff (h : Interleaved xs ys zs) {a : α} : a ∈ zs ↔ a ∈ xs ∨ a ∈ ys := by
  induction h with
  | nil => simp
  | left _ ih => simp [ih, or_assoc]
  | right _ ih => simp [ih, or_left_comm]

/-- What tells the lists apart gives back the first of them. -/
theorem filter_eq (h : Interleaved xs ys zs) {p : α → Bool} (hLeft : ∀ a ∈ xs, p a = true)
    (hRight : ∀ a ∈ ys, p a = false) : zs.filter p = xs := by
  induction h with
  | nil => rfl
  | left _ ih =>
      obtain ⟨hHere, hRest⟩ := List.forall_mem_cons.1 hLeft
      rw [List.filter_cons_of_pos hHere, ih hRest hRight]
  | right _ ih =>
      obtain ⟨hHere, hRest⟩ := List.forall_mem_cons.1 hRight
      rw [List.filter_cons_of_neg (by simp [hHere]), ih hLeft hRest]

end Interleaved

end StoryTrace
