import StoryTrace.Json.Layout
import StoryTrace.Json.Skip
import StoryTrace.Proofs.Json.Reading

/-!
# Written fields read back

A record is written as an object that leaves out its absent fields. When no two fields share a
name, a reader finds each field under its name, whatever the other fields are.
-/

namespace StoryTrace.Json

/-! ## Objects read by name -/

theorem readNamed_member {names : List String} {k : String} {v : Json} {fuel : Nat}
    {tail : List Char} (hName : k ∈ names) (h : v.Legible (maxDepth - 1))
    (hFuel : (quote k ++ ':' :: print v).length ≤ fuel) (hEnds : Number.Ends tail) :
    readNamed names (fuel + 1) (quote k ++ ':' :: (print v ++ tail)) =
      match skipSpace tail with
      | '\x7d' :: rest => some ([(k, v)], rest)
      | ',' :: rest => (readNamed names fuel rest).map fun p => ((k, v) :: p.1, p.2)
      | _ => none := by
  simp only [List.length_append, List.length_cons] at hFuel
  have hKey : readKey fuel (quote k ++ ':' :: (print v ++ tail)) = some (k, print v ++ tail) :=
    readKey_quote k (by omega) _
  have hValue : readValue fuel (maxDepth - 1) (print v ++ tail) = some (v, tail) :=
    readValue_print h (by omega) hEnds
  rw [readNamed]
  simp only [hKey, Option.bind_eq_bind, Option.bind_some, List.contains_iff_mem.2 hName, if_true,
    hValue, Option.map_some]
  cases skipSpace tail with
  | nil => rfl
  | cons c rest =>
      by_cases hEnd : c = '\x7d'
      · subst hEnd
        rfl
      by_cases hComma : c = ','
      · subst hComma
        exact Option.map_eq_bind.symm
      · simp [hEnd, hComma]

/-- All members are read, one after the other, when all their names are known. -/
theorem readNamed_print {names : List String} {k : String} {v : Json}
    {members : List (String × Json)} (hNames : ∀ e ∈ (k, v) :: members, e.1 ∈ names)
    (h : LegibleMembers (maxDepth - 1) ((k, v) :: members)) {fuel : Nat}
    (hFuel : (quote k ++ ':' :: (print v ++ printMembers members)).length ≤ fuel)
    (rest : List Char) :
    readNamed names fuel (quote k ++ ':' :: (print v ++ (printMembers members ++ rest))) =
      some ((k, v) :: members, rest) := by
  induction members generalizing k v fuel with
  | nil =>
      simp only [printMembers, List.length_append, List.length_cons, List.length_nil] at hFuel
      obtain ⟨fuel, rfl⟩ : ∃ n, fuel = n + 1 := ⟨fuel - 1, by omega⟩
      have hFits : (quote k ++ ':' :: print v).length ≤ fuel := by
        simp only [List.length_append, List.length_cons]
        omega
      rw [readNamed_member (hNames _ (List.mem_cons_self ..)) h.1 hFits (ends_printMembers [] rest)]
      simp [printMembers, skipSpace_cons, isSpace]
  | cons e members ih =>
      obtain ⟨other, w⟩ := e
      simp only [printMembers, List.length_append, List.length_cons] at hFuel
      obtain ⟨fuel, rfl⟩ : ∃ n, fuel = n + 1 := ⟨fuel - 1, by omega⟩
      have hFits : (quote k ++ ':' :: print v).length ≤ fuel := by
        simp only [List.length_append, List.length_cons]
        omega
      have hMore : readNamed names fuel
          (quote other ++ ':' :: (print w ++ (printMembers members ++ rest))) =
            some ((other, w) :: members, rest) := by
        apply ih (fun x hx => hNames x (List.mem_cons_of_mem _ hx)) h.2
        simp only [List.length_append, List.length_cons]
        omega
      rw [readNamed_member (hNames _ (List.mem_cons_self ..)) h.1 hFits (ends_printMembers _ rest)]
      simp only [printMembers, List.cons_append, List.append_assoc]
      rw [skipSpace_cons (by decide)]
      simp only [hMore, Option.map_some]

/-- A printed object reads back when all its names are known. -/
theorem parseNamed?_compress {names : List String} {members : List (String × Json)}
    (hNames : ∀ e ∈ members, e.1 ∈ names) (h : LegibleMembers (maxDepth - 1) members) :
    parseNamed? names (compress (.object members)) = some (.object members) := by
  rw [parseNamed?, compress, String.toList_ofList]
  cases members with
  | nil => simp [print, isSpace, skipSpace]
  | cons e members =>
      obtain ⟨k, v⟩ := e
      have hRead : readNamed names ((print (.object ((k, v) :: members))).length + 1)
          (quote k ++ ':' :: (print v ++ printMembers members)) = some ((k, v) :: members, []) := by
        rw [← List.append_nil (printMembers members)]
        exact readNamed_print hNames h (by simp [print]; omega) []
      rw [print] at hRead ⊢
      rw [quote, List.cons_append] at hRead ⊢
      rw [skipSpace_cons (by decide)]
      simp only [skipSpace_cons (show isSpace '"' = false by decide)]
      change (readNamed names _ ('"' :: _)).bind _ = _
      rw [hRead]
      rfl

/-! ## Lists -/

/-- A list is read when all its items are. -/
theorem mapM_eq_some_iff {α β : Type} {f : α → Option β} {items : List α} {results : List β} :
    items.mapM f = some results ↔ items.map f = results.map some := by
  induction items generalizing results with
  | nil => cases results <;> simp
  | cons a rest ih =>
      rw [List.mapM_cons, List.map_cons]
      simp only [Option.bind_eq_bind, Option.pure_def, Option.bind_eq_some_iff, Option.some.injEq, ih]
      constructor
      · rintro ⟨b, hFirst, more, hRest, rfl⟩
        rw [hFirst, hRest, List.map_cons]
      · intro hSame
        cases results with
        | nil => cases hSame
        | cons b more =>
            obtain ⟨hFirst, hRest⟩ := List.cons.inj hSame
            exact ⟨b, hFirst, more, hRest, rfl⟩

/-- Items that are read back one by one are read back together. -/
theorem mapM_map_eq_some {α : Type} {write : α → Json} {read : Json → Option α} {xs : List α}
    (h : ∀ a ∈ xs, read (write a) = some a) : (xs.map write).mapM read = some xs := by
  rw [mapM_eq_some_iff, List.map_map]
  exact List.map_congr_left h

theorem strings?_ofStrings (texts : List String) : strings? (ofStrings texts) = some texts :=
  mapM_map_eq_some fun _ _ => rfl

/-! ## Fields of a record -/

/-- The members of a record that has the given fields, of which the absent ones are left out. -/
def written (fields : List (String × Option Json)) : List (String × Json) :=
  fields.flatMap fun f => given f.1 f.2

/-- An absent value stays absent, and so does a null. -/
def nonNull? (v : Option Json) : Option Json := v.filter fun v => !v.isNull

variable {fields : List (String × Option Json)} {key : String} {v : Option Json} {index : Nat}

theorem mem_written_iff {e : String × Json} :
    e ∈ written fields ↔ (e.1, some e.2) ∈ fields := by
  obtain ⟨k, x⟩ := e
  simp only [written, List.mem_flatMap]
  constructor
  · rintro ⟨⟨name, value⟩, hField, hMember⟩
    cases value with
    | none => cases hMember
    | some y =>
        obtain ⟨rfl, rfl⟩ : k = name ∧ x = y := by simpa [given] using hMember
        exact hField
  · intro hField
    exact ⟨(k, some x), hField, List.mem_singleton.2 rfl⟩

theorem legibleMembers_iff {depth : Nat} {members : List (String × Json)} :
    LegibleMembers depth members ↔ ∀ e ∈ members, e.2.Legible depth := by
  induction members with
  | nil => simp [LegibleMembers]
  | cons e members ih => simp [LegibleMembers, ih]

theorem legible_map {α : Type} {depth : Nat} {write : α → Json} {x : Option α}
    (h : ∀ a ∈ x, (write a).Legible depth) : ∀ v ∈ x.map write, v.Legible depth := by
  intro v hv
  obtain ⟨a, ha, rfl⟩ := Option.map_eq_some_iff.1 hv
  exact h a ha

/-- A record is as legible as its fields. -/
theorem legibleMembers_written {depth : Nat} (h : ∀ f ∈ fields, ∀ x ∈ f.2, x.Legible depth) :
    LegibleMembers depth (written fields) := by
  rw [legibleMembers_iff]
  intro e he
  exact h _ (mem_written_iff.1 he) e.2 rfl

namespace Layout

theorem filter_written_of_not_mem (h : key ∉ fields.map (·.1)) :
    (written fields).filter (·.1 = key) = [] := by
  rw [List.filter_eq_nil_iff]
  intro e he hKey
  refine h (List.mem_map.2 ⟨_, mem_written_iff.1 he, ?_⟩)
  simpa using hKey

theorem filter_written (hKeys : (fields.map (·.1)).Nodup) (h : (key, v) ∈ fields) :
    (written fields).filter (·.1 = key) = given key v := by
  induction fields with
  | nil => cases h
  | cons f fields ih =>
      obtain ⟨hFresh, hRest⟩ := List.nodup_cons.1 hKeys
      rw [written, List.flatMap_cons, List.filter_append, ← written]
      rcases List.mem_cons.1 h with rfl | hLater
      · rw [filter_written_of_not_mem hFresh, List.append_nil, List.filter_eq_self]
        intro e he
        cases v with
        | none => cases he
        | some x => simp_all [given]
      · have hOther : f.1 ≠ key := by
          rintro rfl
          exact hFresh (List.mem_map.2 ⟨_, hLater, rfl⟩)
        have hNone : (given f.1 f.2).filter (·.1 = key) = [] := by
          cases hValue : f.2 <;> simp [given, hOther]
        rw [hNone, List.nil_append, ih hRest hLater]

/-- A field is found under its name as it was written. -/
theorem slot?_written_of_mem (hKeys : (fields.map (·.1)).Nodup) (h : (key, v) ∈ fields) :
    (named (written fields)).slot? index key = some v := by
  rw [slot?, filter_written hKeys h]
  cases v <;> rfl

theorem slot?_written (hKeys : (fields.map (·.1)).Nodup) (h : fields[index]? = some (key, v)) :
    (named (written fields)).slot? index key = some v :=
  slot?_written_of_mem hKeys (List.mem_of_getElem? h)

theorem slot?_written_of_not_mem (h : key ∉ fields.map (·.1)) :
    (named (written fields)).slot? index key = some none := by
  rw [slot?, filter_written_of_not_mem h]

/-! ## Readers of one field -/

section Slots

variable {α : Type} {l : Layout} {read : Json → Option α} {write : α → Json}

theorem required_of_slot? {x : Json} {a : α} (h : l.slot? index key = some (some x))
    (hRead : read x = some a) : l.required index key read = some a := by
  rw [required, h]
  exact hRead

theorem withDefault_of_slot? {x : Json} {absent a : α} (h : l.slot? index key = some (some x))
    (hRead : read x = some a) : l.withDefault index key absent read = some a := by
  rw [withDefault, h]
  exact hRead

/-- A field that is left out when it is absent reads back when its values do and none of them is
null. -/
theorem optional_of_slot? {x : Option α} (h : l.slot? index key = some (x.map write))
    (hRead : ∀ a ∈ x, (write a).isNull = false ∧ read (write a) = some a) :
    l.optional index key read = some x := by
  rw [optional, withDefault, h]
  cases x with
  | none => rfl
  | some a =>
      obtain ⟨hValue, hBack⟩ := hRead a rfl
      simp [hValue, hBack]

/-- So does a field that is null when it is absent. -/
theorem optional_of_slot?_ofOption {x : Option α}
    (h : l.slot? index key = some (some (ofOption write x)))
    (hRead : ∀ a ∈ x, (write a).isNull = false ∧ read (write a) = some a) :
    l.optional index key read = some x := by
  rw [optional, withDefault, h]
  cases x with
  | none => rfl
  | some a =>
      obtain ⟨hValue, hBack⟩ := hRead a rfl
      simp [hValue, hBack]

/-- A free-form field reads back, except that its null reads as absent. -/
theorem optionalValue_of_slot? (h : l.slot? index key = some v)
    (hCanonical : ∀ x ∈ v, x.canonical = x) :
    l.optionalValue index key = some (nonNull? v) := by
  rw [optionalValue, optional, withDefault, h]
  cases v with
  | none => rfl
  | some x =>
      rw [nonNull?]
      cases hNull : x.isNull with
      | true => simp [Option.filter, hNull]
      | false => simp [Option.filter, hNull, hCanonical x rfl]

end Slots

section Readers

variable {α : Type} {read : Json → Option α} {write : α → Json}
  (hKeys : (fields.map (·.1)).Nodup)
include hKeys

theorem required_written {x : Json} {a : α} (h : fields[index]? = some (key, some x))
    (hRead : read x = some a) : (named (written fields)).required index key read = some a :=
  required_of_slot? (slot?_written hKeys h) hRead

theorem optional_written {x : Option α} (h : fields[index]? = some (key, x.map write))
    (hRead : ∀ a ∈ x, (write a).isNull = false ∧ read (write a) = some a) :
    (named (written fields)).optional index key read = some x :=
  optional_of_slot? (slot?_written hKeys h) hRead

theorem optionalValue_written (h : fields[index]? = some (key, v))
    (hCanonical : ∀ x ∈ v, x.canonical = x) :
    (named (written fields)).optionalValue index key = some (nonNull? v) :=
  optionalValue_of_slot? (slot?_written hKeys h) hCanonical

end Readers

end Layout

end StoryTrace.Json
