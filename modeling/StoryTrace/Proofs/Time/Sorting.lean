import Mathlib.Data.List.Perm.Basic
import StoryTrace.Time.Instant

/-!
# Sorting by time

Lists that hold the same items, and agree on the order of those of the same instant, are sorted to
the same list. The latest of several instants does not depend on their order at all.
-/

namespace StoryTrace

namespace Instant

theorem ble_antisymm {a b : Instant} (hab : a.ble b = true) (hba : b.ble a = true) : a = b := by
  obtain ⟨second, nano⟩ := a
  obtain ⟨second', nano'⟩ := b
  simp only [ble, Bool.or_eq_true, Bool.and_eq_true, decide_eq_true_eq, beq_iff_eq] at hab hba
  simp only [Instant.mk.injEq]
  omega

theorem ble_max_left (a b : Instant) : a.ble (a.max b) = true := by
  unfold max
  split
  case isTrue hLe => exact hLe
  case isFalse => exact ble_refl a

theorem ble_max_right (a b : Instant) : b.ble (a.max b) = true := by
  have hTotal := ble_total a b
  unfold max
  split
  case isTrue => exact ble_refl b
  case isFalse hNot => simpa [hNot] using hTotal

theorem max_ble {a b c : Instant} (ha : a.ble c = true) (hb : b.ble c = true) :
    (a.max b).ble c = true := by
  unfold max
  split
  · exact hb
  · exact ha

instance : RightCommutative Instant.max where
  right_comm a b c := by
    have hLe (b c : Instant) : ((a.max b).max c).ble ((a.max c).max b) = true := by
      refine max_ble (max_ble ?_ (ble_max_right _ b)) ?_
      · exact ble_trans (ble_max_left a c) (ble_max_left _ b)
      · exact ble_trans (ble_max_right a c) (ble_max_left _ b)
    exact ble_antisymm (hLe b c) (hLe c b)

theorem ble_foldl_max (a : Instant) (times : List Instant) :
    a.ble (times.foldl max a) = true := by
  induction times generalizing a with
  | nil => exact ble_refl a
  | cons t times ih => exact ble_trans (ble_max_left a t) (ih (a.max t))

theorem ble_foldl_max_of_mem {t : Instant} {times : List Instant} (h : t ∈ times) (a : Instant) :
    t.ble (times.foldl max a) = true := by
  induction times generalizing a with
  | nil => cases h
  | cons first times ih =>
      rcases List.mem_cons.1 h with rfl | hLater
      · exact ble_trans (ble_max_right a t) (ble_foldl_max _ times)
      · exact ih hLater _

end Instant

variable {α : Type} {key : α → Instant} {xs ys zs : List α}

/-- The second list holds the items of the first, and items of one instant stand in the same
order. -/
structure Rearranged (key : α → Instant) (xs ys : List α) : Prop where
  perm : xs.Perm ys
  ties : ∀ t, xs.filter (key · = t) = ys.filter (key · = t)

/-- No item stands before one of an earlier instant. -/
def Chronological (key : α → Instant) (xs : List α) : Prop :=
  xs.Pairwise fun a b => (key a).ble (key b) = true

instance (key : α → Instant) (xs : List α) : Decidable (Chronological key xs) :=
  inferInstanceAs (Decidable (xs.Pairwise fun a b => (key a).ble (key b) = true))

namespace Rearranged

theorem symm (h : Rearranged key xs ys) : Rearranged key ys xs :=
  ⟨h.perm.symm, fun t => (h.ties t).symm⟩

theorem trans (h : Rearranged key xs ys) (h' : Rearranged key ys zs) : Rearranged key xs zs :=
  ⟨h.perm.trans h'.perm, fun t => (h.ties t).trans (h'.ties t)⟩

/-- What lists agree on that start with the same item, their rests agree on. -/
theorem of_cons {x : α} (h : Rearranged key (x :: xs) (x :: ys)) : Rearranged key xs ys where
  perm := h.perm.cons_inv
  ties t := by
    have hTies := h.ties t
    by_cases hx : key x = t
    · simpa [hx] using hTies
    · simpa [hx] using hTies

/-- The order of the instants and the order within each instant leave no choice. -/
theorem eq_of_chronological (h : Rearranged key xs ys) (hx : Chronological key xs)
    (hy : Chronological key ys) : xs = ys := by
  induction xs generalizing ys with
  | nil => exact (List.nil_perm.1 h.perm).symm
  | cons x xs ih =>
      cases ys with
      | nil => exact absurd h.perm.length_eq (by simp)
      | cons y ys =>
          obtain ⟨hFirst, hRest⟩ := List.pairwise_cons.1 hx
          obtain ⟨hFirst', hRest'⟩ := List.pairwise_cons.1 hy
          have hxy : (key x).ble (key y) = true := by
            rcases List.mem_cons.1 (h.perm.mem_iff.2 (List.mem_cons_self ..)) with rfl | hLater
            · exact Instant.ble_refl _
            · exact hFirst y hLater
          have hyx : (key y).ble (key x) = true := by
            rcases List.mem_cons.1 (h.perm.mem_iff.1 (List.mem_cons_self ..)) with rfl | hLater
            · exact Instant.ble_refl _
            · exact hFirst' x hLater
          have hKey : key y = key x := Instant.ble_antisymm hyx hxy
          have hTies := h.ties (key x)
          simp only [List.filter_cons, hKey, decide_true, if_true, List.cons.injEq] at hTies
          obtain ⟨rfl, -⟩ := hTies
          rw [ih h.of_cons hRest hRest']

/-- What items tell of themselves is rearranged with them, if it tells of the same instant. -/
theorem filterMap {β : Type} {f : α → Option β} {told : β → Instant}
    (h : Rearranged key xs ys) (hKey : ∀ a b, f a = some b → told b = key a) :
    Rearranged told (xs.filterMap f) (ys.filterMap f) where
  perm := h.perm.filterMap f
  ties t := by
    have hFilter (zs : List α) : (zs.filterMap f).filter (told · = t) =
        (zs.filter (key · = t)).filterMap f := by
      rw [List.filter_filterMap, List.filterMap_filter]
      congr 1
      funext a
      cases hTold : f a with
      | none => simp
      | some b => by_cases hTime : key a = t <;> simp [hKey a b hTold, hTime]
    rw [hFilter, hFilter, h.ties t]

end Rearranged

theorem chronological_mergeSort (key : α → Instant) (xs : List α) :
    Chronological key (xs.mergeSort fun a b => (key a).ble (key b)) :=
  List.pairwise_mergeSort (fun a b _ (hab : (key a).ble (key b) = true) => Instant.ble_trans hab)
    (fun a b => Instant.ble_total (key a) (key b)) xs

/-- Sorting keeps the order within each instant. -/
theorem rearranged_mergeSort (key : α → Instant) (xs : List α) :
    Rearranged key xs (xs.mergeSort fun a b => (key a).ble (key b)) where
  perm := (List.mergeSort_perm _ _).symm
  ties t := by
    have hSame : Chronological key (xs.filter (key · = t)) := by
      refine List.pairwise_of_forall_mem_list fun a ha b hb => ?_
      have haTime : key a = t := by simpa using (List.mem_filter.1 ha).2
      have hbTime : key b = t := by simpa using (List.mem_filter.1 hb).2
      rw [haTime, hbTime]
      exact Instant.ble_refl t
    have hKept := List.sublist_mergeSort
      (fun a b _ (hab : (key a).ble (key b) = true) => Instant.ble_trans hab)
      (fun a b => Instant.ble_total (key a) (key b)) hSame List.filter_sublist
    have hAmong := hKept.filter (key · = t)
    rw [List.filter_filter] at hAmong
    simp only [Bool.and_self] at hAmong
    refine hAmong.eq_of_length ?_
    exact ((List.mergeSort_perm xs _).filter _).length_eq.symm

theorem Rearranged.mergeSort_eq (h : Rearranged key xs ys) :
    (xs.mergeSort fun a b => (key a).ble (key b)) =
      ys.mergeSort fun a b => (key a).ble (key b) := by
  have hSorted := ((rearranged_mergeSort key xs).symm.trans h).trans (rearranged_mergeSort key ys)
  exact hSorted.eq_of_chronological (chronological_mergeSort key xs)
    (chronological_mergeSort key ys)

end StoryTrace
