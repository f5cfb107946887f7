import StoryTrace.Table

/-!
# Merging and thinning tables

A merge changes nothing exactly when every entry that is merged is there already. Keys that are
erased one after another are the ones that no longer answer.
-/

namespace StoryTrace.Table

variable {α : Type} {t more : Table α} {key : String} {value : α}

theorem mem_of_get? (h : get? t key = some value) : (key, value) ∈ t := by
  induction t with
  | nil => cases h
  | cons e rest ih =>
      obtain ⟨k, v⟩ := e
      by_cases hk : k = key
      · subst hk
        have hValue : v = value := by simpa [get?] using h
        rw [hValue]
        exact List.mem_cons_self ..
      · exact List.mem_cons_of_mem _ (ih (by simpa [get?, hk] using h))

/-- Putting an entry that is there already changes nothing. -/
theorem put_of_get? (hSorted : t.Sorted) (h : get? t key = some value) : put t key value = t := by
  induction t with
  | nil => cases h
  | cons e rest ih =>
      obtain ⟨k, v⟩ := e
      obtain ⟨hFirst, hRest⟩ := List.pairwise_cons.1 hSorted
      by_cases hk : k = key
      · subst hk
        have hValue : v = value := by simpa [get?] using h
        simp [put, hValue]
      · have hBelow : get? rest key = some value := by simpa [get?, hk] using h
        have hLater : ¬ key < k := String.lt_asymm (hFirst _ (mem_of_get? hBelow))
        simp [put, hk, hLater, ih hRest hBelow]

theorem merge_cons (t : Table α) (e : String × α) (rest : Table α) :
    merge t (e :: rest) = merge (put t e.1 e.2) rest := rfl

theorem get?_merge_of_forall_ne (h : ∀ e ∈ more, e.1 ≠ key) :
    get? (merge t more) key = get? t key := by
  induction more generalizing t with
  | nil => rfl
  | cons e rest ih =>
      have hHere : e.1 ≠ key := h e (List.mem_cons_self ..)
      rw [merge_cons, ih fun x hx => h x (List.mem_cons_of_mem _ hx), get?_put, if_neg hHere]

theorem ne_of_get?_eq_none (h : get? t key = none) {e : String × α} (he : e ∈ t) : e.1 ≠ key := by
  induction t with
  | nil => cases he
  | cons x rest ih =>
      by_cases hFirst : x.1 = key
      · simp [get?, hFirst] at h
      · rcases List.mem_cons.1 he with rfl | hLater
        · exact hFirst
        · exact ih (by simpa [get?, hFirst] using h) hLater

/-- A look-up finds nothing new in a merged table where the second table has nothing. -/
theorem get?_merge_of_get?_eq_none (h : get? more key = none) :
    get? (merge t more) key = get? t key :=
  get?_merge_of_forall_ne fun _ he => ne_of_get?_eq_none h he

/-- The keys of a sorted table are distinct. -/
theorem Sorted.nodup_keys (h : t.Sorted) : (t.map (·.1)).Nodup :=
  List.pairwise_map.2 (h.imp String.ne_of_lt)

theorem get?_merge_of_mem (hKeys : (more.map (·.1)).Nodup) {e : String × α} (he : e ∈ more) :
    get? (merge t more) e.1 = some e.2 := by
  induction more generalizing t with
  | nil => cases he
  | cons x rest ih =>
      obtain ⟨hFirst, hRest⟩ := List.nodup_cons.1 hKeys
      rw [merge_cons]
      rcases List.mem_cons.1 he with rfl | hLater
      · have hOthers : ∀ y ∈ rest, y.1 ≠ e.1 := by
          intro y hy hEq
          exact hFirst (List.mem_map.2 ⟨y, hy, hEq⟩)
        rw [get?_merge_of_forall_ne hOthers, get?_put, if_pos rfl]
      · exact ih hRest hLater

theorem merge_eq_self_iff (hSorted : t.Sorted) (hMore : more.Sorted) :
    merge t more = t ↔ ∀ e ∈ more, get? t e.1 = some e.2 := by
  constructor
  · intro hMerge e he
    rw [← hMerge]
    exact get?_merge_of_mem hMore.nodup_keys he
  · intro hThere
    clear hMore
    induction more with
    | nil => rfl
    | cons e rest ih =>
        rw [merge_cons, put_of_get? hSorted (hThere e (List.mem_cons_self ..))]
        exact ih fun x hx => hThere x (List.mem_cons_of_mem _ hx)

theorem get?_foldl_erase (keys : List String) (t : Table α) (key : String) :
    get? (keys.foldl erase t) key = if key ∈ keys then none else get? t key := by
  induction keys generalizing t with
  | nil => rfl
  | cons first rest ih =>
      rw [List.foldl_cons, ih, get?_erase]
      by_cases hRest : key ∈ rest
      · simp [hRest]
      · simp [hRest]

/-! ## Order -/

theorem key_of_mem_put {e : String × α} (he : e ∈ put t key value) :
    e = (key, value) ∨ e ∈ t := by
  induction t with
  | nil => exact .inl (List.mem_singleton.1 he)
  | cons x rest ih =>
      obtain ⟨k, v⟩ := x
      simp only [put] at he
      split at he
      · rcases List.mem_cons.1 he with hHere | hLater
        · exact .inl hHere
        · exact .inr (List.mem_cons_of_mem _ hLater)
      split at he
      · exact List.mem_cons.1 he
      · rcases List.mem_cons.1 he with hHere | hLater
        · exact .inr (hHere ▸ List.mem_cons_self ..)
        · exact (ih hLater).imp_right (List.mem_cons_of_mem _)

theorem Sorted.put (h : t.Sorted) (key : String) (value : α) : (put t key value).Sorted := by
  induction t with
  | nil => exact List.pairwise_singleton ..
  | cons x rest ih =>
      obtain ⟨k, v⟩ := x
      obtain ⟨hFirst, hRest⟩ := List.pairwise_cons.1 h
      simp only [Table.put]
      split
      case isTrue hSame =>
        subst hSame
        exact List.pairwise_cons.2 ⟨hFirst, hRest⟩
      split
      case isTrue hBefore =>
        refine List.pairwise_cons.2 ⟨?_, h⟩
        intro e he
        rcases List.mem_cons.1 he with rfl | hLater
        · exact hBefore
        · exact String.lt_trans hBefore (hFirst e hLater)
      case isFalse hOther hAfter =>
        refine List.pairwise_cons.2 ⟨?_, ih hRest⟩
        intro e he
        rcases key_of_mem_put he with rfl | hLater
        · exact Std.lt_of_le_of_ne hAfter hOther
        · exact hFirst e hLater

theorem mem_of_mem_merge {e : String × α} (he : e ∈ merge t more) : e ∈ t ∨ e ∈ more := by
  induction more generalizing t with
  | nil => exact .inl he
  | cons x rest ih =>
      rcases ih he with hPut | hLater
      · rcases key_of_mem_put hPut with hHere | hOld
        · exact .inr (hHere ▸ List.mem_cons_self ..)
        · exact .inl hOld
      · exact .inr (List.mem_cons_of_mem _ hLater)

theorem Sorted.merge (h : t.Sorted) (more : Table α) : (merge t more).Sorted := by
  induction more generalizing t with
  | nil => exact h
  | cons e rest ih => exact ih (h.put e.1 e.2)

theorem sorted_ofList (entries : List (String × α)) : (ofList entries).Sorted :=
  Sorted.merge List.Pairwise.nil entries

/-- An entry behind all others is put at the end. -/
theorem put_of_forall_lt (h : ∀ e ∈ t, e.1 < key) : put t key value = t ++ [(key, value)] := by
  induction t with
  | nil => rfl
  | cons e rest ih =>
      have hFirst : e.1 < key := h e (List.mem_cons_self ..)
      have hApart : e.1 ≠ key := String.ne_of_lt hFirst
      rw [put, if_neg hApart, if_neg (String.lt_asymm hFirst),
        ih fun x hx => h x (List.mem_cons_of_mem _ hx)]
      rfl

theorem merge_of_sorted (h : Sorted (t ++ more)) : merge t more = t ++ more := by
  induction more generalizing t with
  | nil => exact (List.append_nil t).symm
  | cons e rest ih =>
      have hBefore : ∀ x ∈ t, x.1 < e.1 := by
        intro x hx
        exact (List.pairwise_append.1 h).2.2 x hx e (List.mem_cons_self ..)
      rw [List.append_cons] at h ⊢
      rw [merge_cons, put_of_forall_lt hBefore, ih h]

/-- A table lists its own entries. -/
theorem ofList_of_sorted (h : t.Sorted) : ofList t = t := merge_of_sorted h

/-- The entries of the merged table win. -/
theorem get?_merge (hSorted : more.Sorted) (t : Table α) (key : String) :
    get? (merge t more) key = (get? more key).or (get? t key) := by
  cases hMore : get? more key with
  | none => exact get?_merge_of_get?_eq_none hMore
  | some value => exact get?_merge_of_mem hSorted.nodup_keys (mem_of_get? hMore)

/-- Entries under distinct keys are all in the table that is made of them. -/
theorem mem_ofList {entries : List (String × α)} (hKeys : (entries.map (·.1)).Nodup)
    {e : String × α} (he : e ∈ entries) : e ∈ ofList entries :=
  mem_of_get? (get?_merge_of_mem hKeys he)

/-! ## Tables seen through look-ups -/

theorem Sorted.get?_eq_some_iff (h : t.Sorted) : get? t key = some value ↔ (key, value) ∈ t := by
  refine ⟨mem_of_get?, fun hMem => ?_⟩
  have hFound := get?_merge_of_mem (t := []) h.nodup_keys hMem
  rwa [merge_of_sorted (t := []) h] at hFound

/-- Sorted tables that answer every key alike are the same. -/
theorem Sorted.eq_of_get?_eq (h : t.Sorted) (hMore : more.Sorted)
    (hSame : ∀ key, get? t key = get? more key) : t = more := by
  have hPerm : t.Perm more := by
    have hNodup {s : Table α} (hs : s.Sorted) : s.Nodup :=
      hs.imp fun hLess hEq => String.ne_of_lt hLess (congrArg Prod.fst hEq)
    refine (List.perm_ext_iff_of_nodup (hNodup h) (hNodup hMore)).2 ?_
    rintro ⟨key, value⟩
    rw [← h.get?_eq_some_iff, ← hMore.get?_eq_some_iff, hSame]
  refine hPerm.eq_of_pairwise (fun a b _ _ hab hba => ?_) h hMore
  exact absurd hba (String.lt_asymm hab)

theorem merge_merge (h : t.Sorted) {first second : Table α} (hFirst : first.Sorted)
    (hSecond : second.Sorted) :
    merge (merge t first) second = merge t (merge first second) := by
  refine ((h.merge first).merge second).eq_of_get?_eq (h.merge _) fun key => ?_
  rw [get?_merge hSecond, get?_merge hFirst, get?_merge (hFirst.merge second),
    get?_merge hSecond, Option.or_assoc]

/-- A second merge of the same table changes nothing. -/
theorem merge_merge_self (h : t.Sorted) (hMore : more.Sorted) :
    merge (merge t more) more = merge t more :=
  (merge_eq_self_iff (h.merge more) hMore).2 fun _ he => get?_merge_of_mem hMore.nodup_keys he

end StoryTrace.Table
