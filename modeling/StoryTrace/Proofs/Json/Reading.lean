import StoryTrace.Json.Parser
import StoryTrace.Json.Printer
import StoryTrace.Proofs.Json.Numbers

/-!
# Printed values read back

The reader undoes the printer: texts with all their escapes, arrays and objects read back as they
were, as long as the values are not nested too deep and their numbers read back.
-/

namespace StoryTrace.Json

mutual

/-- The value is nested at most so deep, and all its numbers read back. -/
def Legible (depth : Nat) : Json → Prop
  | .number n => n.ReadsBack
  | .array items => 0 < depth ∧ LegibleItems (depth - 1) items
  | .object members => 0 < depth ∧ LegibleMembers (depth - 1) members
  | _ => True

def LegibleItems (depth : Nat) : List Json → Prop
  | [] => True
  | v :: rest => Legible depth v ∧ LegibleItems depth rest

def LegibleMembers (depth : Nat) : List (String × Json) → Prop
  | [] => True
  | (_, v) :: rest => Legible depth v ∧ LegibleMembers depth rest

end

variable {fuel depth : Nat} {rest : List Char}

theorem skipSpace_cons {c : Char} (h : isSpace c = false) (cs : List Char) :
    skipSpace (c :: cs) = c :: cs := by
  simp [skipSpace, h]

/-! ## Texts -/

theorem hex4?_digits {n : Nat} (h : n < 65536) (rest : List Char) :
    hex4? (Text.Hex.digits 4 n ++ rest) = some (n, rest) := by
  have hDigit (m : Nat) : Text.Hex.value? (Text.Hex.digit (m % 16)) = some (m % 16) :=
    Text.Hex.value?_digit (Nat.mod_lt m (by decide))
  simp only [Text.Hex.digits, List.nil_append, List.cons_append, hex4?, hDigit]
  simp
  omega

theorem unicodeEscape?_digits {n : Nat} (h : n < 0x20) (rest : List Char) :
    unicodeEscape? (Text.Hex.digits 4 n ++ rest) = some (Char.ofNat n, rest) := by
  have hHigh : ¬ (0xD800 ≤ n ∧ n < 0xDC00) := by omega
  have hLow : ¬ (0xDC00 ≤ n ∧ n < 0xE000) := by omega
  rw [unicodeEscape?, hex4?_digits (by omega), Option.bind_eq_bind, Option.bind_some]
  simp only [if_neg hHigh, if_neg hLow]
  rfl

theorem scanString_escaped {e c : Char} (hUnicode : e ≠ 'u') (h : escaped? e = some c)
    (rest : List Char) :
    scanString (fuel + 1) ('\\' :: e :: rest) =
      (scanString fuel rest).map fun p => (c :: p.1, p.2) := by
  cases hRest : scanString fuel rest with
  | none => simp [scanString, h, hRest]
  | some p => simp [scanString, h, hRest]

/-- One unit of fuel reads a character, however it is written. -/
theorem scanString_escape (c : Char) (rest : List Char) :
    scanString (fuel + 1) (escape c ++ rest) =
      (scanString fuel rest).map fun p => (c :: p.1, p.2) := by
  have hEscaped (e : Char) (hUnicode : e ≠ 'u') (h : escaped? e = some c) :
      scanString (fuel + 1) ('\\' :: e :: rest) =
        (scanString fuel rest).map fun p => (c :: p.1, p.2) :=
    scanString_escaped hUnicode h rest
  have hNamed (n : Nat) (h : c.toNat = n) : Char.ofNat n = c := by
    rw [← h, Char.ofNat_toNat]
  simp only [escape]
  split
  case isTrue hQuote => subst hQuote; exact hEscaped '"' (by decide) rfl
  split
  case isTrue hSlash => subst hSlash; exact hEscaped '\\' (by decide) rfl
  split
  case isTrue hNewline => exact hEscaped 'n' (by decide) (hNewline ▸ rfl)
  split
  case isTrue hReturn => exact hEscaped 'r' (by decide) (hReturn ▸ rfl)
  split
  case isTrue hTab => exact hEscaped 't' (by decide) (hTab ▸ rfl)
  split
  case isTrue hBack => exact hEscaped 'b' (by decide) (hNamed 8 hBack ▸ rfl)
  split
  case isTrue hFeed => exact hEscaped 'f' (by decide) (hNamed 12 hFeed ▸ rfl)
  split
  case isTrue hControl =>
    have hUnicode := unicodeEscape?_digits hControl rest
    rw [Char.ofNat_toNat] at hUnicode
    cases hRest : scanString fuel rest with
    | none => simp [scanString, hUnicode, hRest]
    | some p => simp [scanString, hUnicode, hRest]
  case isFalse hQuote hSlash _ _ _ _ _ hPlain =>
    cases hRest : scanString fuel rest with
    | none => simp [scanString, hQuote, hSlash, hPlain, hRest]
    | some p => simp [scanString, hQuote, hSlash, hPlain, hRest]

/-- A character is written with at least one character. -/
theorem length_escape_pos (c : Char) : 0 < (escape c).length := by
  unfold escape
  repeat' split
  all_goals exact Nat.succ_pos _

theorem scanString_flatMap_escape (cs : List Char) (h : cs.length < fuel) (rest : List Char) :
    scanString fuel (cs.flatMap escape ++ '"' :: rest) = some (cs, rest) := by
  induction cs generalizing fuel with
  | nil =>
      obtain ⟨fuel, rfl⟩ : ∃ n, fuel = n + 1 := ⟨fuel - 1, by simp at h; omega⟩
      simp [scanString]
  | cons c cs ih =>
      obtain ⟨fuel, rfl⟩ : ∃ n, fuel = n + 1 := ⟨fuel - 1, by simp at h; omega⟩
      rw [List.flatMap_cons, List.append_assoc, scanString_escape, ih (by simpa using h)]
      rfl

theorem length_quote (s : String) : s.toList.length + 2 ≤ (quote s).length := by
  have hEscaped (cs : List Char) : cs.length ≤ (cs.flatMap escape).length := by
    induction cs with
    | nil => exact Nat.le_refl _
    | cons c cs ih =>
        have := length_escape_pos c
        simp only [List.flatMap_cons, List.length_cons, List.length_append]
        omega
  have := hEscaped s.toList
  simp only [quote, List.length_cons, List.length_append, List.length_nil]
  omega

theorem readString_quote (s : String) (h : (quote s).length ≤ fuel + 1) (rest : List Char) :
    readString fuel (quote s ++ rest) = some (s, rest) := by
  have := length_quote s
  simp only [quote, readString, List.cons_append, List.append_assoc, List.nil_append]
  rw [scanString_flatMap_escape s.toList (by omega)]
  simp

theorem readKey_quote (k : String) (h : (quote k).length ≤ fuel + 1) (rest : List Char) :
    readKey fuel (quote k ++ ':' :: rest) = some (k, rest) := by
  have hStart : skipSpace (quote k ++ ':' :: rest) = quote k ++ ':' :: rest :=
    skipSpace_cons (by decide) _
  have hColon : skipSpace (':' :: rest) = ':' :: rest := skipSpace_cons (by decide) rest
  rw [readKey, hStart, readString_quote k h, Option.bind_eq_bind, Option.bind_some]
  simp only [hColon]
  rfl

/-! ## Values -/

/-- The first character of a number. -/
def StartsNumber (c : Char) : Prop := c = '-' ∨ c.isDigit = true

theorem StartsNumber.ne {c : Char} (h : StartsNumber c) {d : Char} (hMinus : d ≠ '-')
    (hDigit : d.isDigit = false) : c ≠ d := by
  rintro rfl
  rcases h with rfl | hIs
  · exact hMinus rfl
  · rw [hDigit] at hIs
    cases hIs

theorem StartsNumber.isSpace_eq_false {c : Char} (h : StartsNumber c) : isSpace c = false := by
  simp only [isSpace, Bool.or_eq_false_iff, beq_eq_false_iff_ne]
  exact ⟨⟨⟨h.ne (by decide) (by decide), h.ne (by decide) (by decide)⟩,
    h.ne (by decide) (by decide)⟩, h.ne (by decide) (by decide)⟩

/-- A printed value starts with a character that is no space and closes no bracket. -/
theorem exists_head_print {v : Json} (h : v.Legible depth) :
    ∃ c more, print v = c :: more ∧ isSpace c = false ∧ c ≠ ']' := by
  cases v with
  | null => exact ⟨'n', _, rfl, by decide, by decide⟩
  | bool b =>
      cases b with
      | false => exact ⟨'f', _, rfl, by decide, by decide⟩
      | true => exact ⟨'t', _, rfl, by decide, by decide⟩
  | number n =>
      obtain ⟨written, hScan, -⟩ := h
      obtain ⟨c, more, hChars, hStarts⟩ := Number.exists_head_of_scan hScan
      have hStarts : StartsNumber c := hStarts
      exact ⟨c, more, hChars, hStarts.isSpace_eq_false, hStarts.ne (by decide) (by decide)⟩
  | string s => exact ⟨'"', _, rfl, by decide, by decide⟩
  | array items =>
      cases items with
      | nil => exact ⟨'[', _, rfl, by decide, by decide⟩
      | cons v items => exact ⟨'[', _, rfl, by decide, by decide⟩
  | object members =>
      cases members with
      | nil => exact ⟨'\x7b', _, rfl, by decide, by decide⟩
      | cons e members => exact ⟨'\x7b', _, rfl, by decide, by decide⟩

/-- A number is what is left to read when no other value starts. -/
theorem readValue_of_number {c : Char} (h : StartsNumber c) (cs : List Char) :
    readValue (fuel + 1) depth (c :: cs) = (do
      let (w, rest) ← Number.scan (c :: cs)
      let n ← w.number?
      return (.number n, rest)) := by
  have hNull : c ≠ 'n' := h.ne (by decide) (by decide)
  have hTrue : c ≠ 't' := h.ne (by decide) (by decide)
  have hFalse : c ≠ 'f' := h.ne (by decide) (by decide)
  have hString : c ≠ '"' := h.ne (by decide) (by decide)
  have hArray : c ≠ '[' := h.ne (by decide) (by decide)
  have hObject : c ≠ '\x7b' := h.ne (by decide) (by decide)
  rw [readValue, skipSpace_cons h.isSpace_eq_false]
  split
  all_goals simp_all

theorem readValue_string (cs : List Char) :
    readValue (fuel + 1) depth ('"' :: cs) =
      (readString fuel ('"' :: cs)).map fun p => (.string p.1, p.2) := by
  rw [readValue, skipSpace_cons (by decide)]
  rfl

theorem readValue_array_cons {c : Char} (hSpace : isSpace c = false) (hNoEnd : c ≠ ']')
    (cs : List Char) :
    readValue (fuel + 1) (depth + 1) ('[' :: c :: cs) = (do
      let (v, rest) ← readValue fuel depth (c :: cs)
      let (more, rest) ← readItems fuel depth rest
      return (.array (v :: more), rest)) := by
  rw [readValue, skipSpace_cons (by decide)]
  simp [skipSpace_cons hSpace, hNoEnd]

theorem readValue_object_cons (cs : List Char) :
    readValue (fuel + 1) (depth + 1) ('\x7b' :: '"' :: cs) = (do
      let (k, rest) ← readKey fuel ('"' :: cs)
      let (v, rest) ← readValue fuel depth rest
      let (more, rest) ← readMembers fuel depth rest
      return (.object ((k, v) :: more), rest)) := by
  rw [readValue, skipSpace_cons (by decide)]
  simp [skipSpace_cons, isSpace]

/-! ## Printed values -/

theorem readValue_print_number {n : Number} (h : n.ReadsBack) (hEnds : Number.Ends rest) :
    readValue (fuel + 1) depth (print (.number n) ++ rest) = some (.number n, rest) := by
  obtain ⟨written, hScan, hNumber⟩ := h
  obtain ⟨c, more, hChars, hStarts⟩ := Number.exists_head_of_scan hScan
  have hAll : Number.scan (n.chars ++ rest) = some (written, rest) := by
    rw [Number.scan_append hEnds, hScan]
    rfl
  rw [print, hChars, List.cons_append, readValue_of_number hStarts, ← List.cons_append, ← hChars,
    hAll, Option.bind_eq_bind, Option.bind_some]
  simp only [hNumber]
  rfl

theorem readValue_print_string {s : String} (h : (quote s).length ≤ fuel + 1) :
    readValue (fuel + 1) depth (print (.string s) ++ rest) = some (.string s, rest) := by
  have hRead := readString_quote s h rest
  rw [print, quote, List.cons_append, readValue_string, ← List.cons_append, ← quote, hRead]
  rfl

theorem readValue_print_array {v : Json} {items : List Json} (h : v.Legible depth)
    (hValue : readValue fuel depth (print v ++ (printItems items ++ rest)) =
      some (v, printItems items ++ rest))
    (hMore : readItems fuel depth (printItems items ++ rest) = some (items, rest)) :
    readValue (fuel + 1) (depth + 1) (print (.array (v :: items)) ++ rest) =
      some (.array (v :: items), rest) := by
  obtain ⟨c, more, hPrint, hSpace, hNoEnd⟩ := exists_head_print h
  simp only [print, List.cons_append, List.append_assoc]
  rw [hPrint] at hValue ⊢
  rw [List.cons_append, readValue_array_cons hSpace hNoEnd, ← List.cons_append, hValue]
  simp only [Option.bind_eq_bind, Option.bind_some, hMore]
  rfl

theorem readValue_print_object {k : String} {v : Json} {members : List (String × Json)}
    (hKey : (quote k).length ≤ fuel + 1)
    (hValue : readValue fuel depth (print v ++ (printMembers members ++ rest)) =
      some (v, printMembers members ++ rest))
    (hMore : readMembers fuel depth (printMembers members ++ rest) = some (members, rest)) :
    readValue (fuel + 1) (depth + 1) (print (.object ((k, v) :: members)) ++ rest) =
      some (.object ((k, v) :: members), rest) := by
  have hRead := readKey_quote k hKey (print v ++ (printMembers members ++ rest))
  simp only [print, List.cons_append, List.append_assoc]
  rw [quote] at hRead ⊢
  rw [List.cons_append, readValue_object_cons, ← List.cons_append, hRead]
  simp only [Option.bind_eq_bind, Option.bind_some, hValue, hMore]
  rfl

theorem ends_printItems (items : List Json) (rest : List Char) :
    Number.Ends (printItems items ++ rest) := by
  cases items with
  | nil => exact Number.ends_cons (by decide) rest
  | cons v items => exact Number.ends_cons (by decide) _

theorem ends_printMembers (members : List (String × Json)) (rest : List Char) :
    Number.Ends (printMembers members ++ rest) := by
  cases members with
  | nil => exact Number.ends_cons (by decide) rest
  | cons e members => exact Number.ends_cons (by decide) _

mutual

/-- A printed value reads back, whatever follows it. -/
theorem readValue_print {v : Json} {depth fuel : Nat} {rest : List Char} (h : v.Legible depth)
    (hFuel : (print v).length ≤ fuel) (hEnds : Number.Ends rest) :
    readValue fuel depth (print v ++ rest) = some (v, rest) := by
  obtain ⟨fuel, rfl⟩ : ∃ n, fuel = n + 1 := by
    obtain ⟨c, more, hPrint, -⟩ := exists_head_print h
    rw [hPrint, List.length_cons] at hFuel
    exact ⟨fuel - 1, by omega⟩
  cases v with
  | null => simp [readValue, print, skipSpace_cons, isSpace]
  | bool b => cases b <;> simp [readValue, print, skipSpace_cons, isSpace]
  | number n => exact readValue_print_number h hEnds
  | string s => exact readValue_print_string (by simpa only [print] using hFuel)
  | array items =>
      obtain ⟨hDepth, hItems⟩ := h
      obtain ⟨depth, rfl⟩ : ∃ n, depth = n + 1 := ⟨depth - 1, by omega⟩
      cases items with
      | nil => simp [readValue, print, skipSpace_cons, isSpace]
      | cons v items =>
          rw [Nat.add_sub_cancel] at hItems
          simp only [print, List.length_cons, List.length_append] at hFuel
          exact readValue_print_array hItems.1
            (readValue_print hItems.1 (by omega) (ends_printItems items rest))
            (readItems_print hItems.2 (by omega))
  | object members =>
      obtain ⟨hDepth, hMembers⟩ := h
      obtain ⟨depth, rfl⟩ : ∃ n, depth = n + 1 := ⟨depth - 1, by omega⟩
      cases members with
      | nil => simp [readValue, print, skipSpace_cons, isSpace]
      | cons e members =>
          rw [Nat.add_sub_cancel] at hMembers
          simp only [print, List.length_cons, List.length_append] at hFuel
          exact readValue_print_object (by omega)
            (readValue_print hMembers.1 (by omega) (ends_printMembers members rest))
            (readMembers_print hMembers.2 (by omega))

theorem readItems_print {items : List Json} {depth fuel : Nat} {rest : List Char}
    (h : LegibleItems depth items) (hFuel : (printItems items).length ≤ fuel) :
    readItems fuel depth (printItems items ++ rest) = some (items, rest) := by
  cases items with
  | nil =>
      obtain ⟨fuel, rfl⟩ : ∃ n, fuel = n + 1 := ⟨fuel - 1, by simp [printItems] at hFuel; omega⟩
      simp [readItems, printItems, skipSpace_cons, isSpace]
  | cons v items =>
      simp only [printItems, List.length_cons, List.length_append] at hFuel
      obtain ⟨fuel, rfl⟩ : ∃ n, fuel = n + 1 := ⟨fuel - 1, by omega⟩
      have hValue : readValue fuel depth (print v ++ (printItems items ++ rest)) =
          some (v, printItems items ++ rest) :=
        readValue_print h.1 (by omega) (ends_printItems items rest)
      have hRest : readItems fuel depth (printItems items ++ rest) = some (items, rest) :=
        readItems_print h.2 (by omega)
      simp only [printItems, List.cons_append, List.append_assoc]
      rw [readItems, skipSpace_cons (by decide)]
      simp only [hValue, hRest, Option.bind_eq_bind, Option.bind_some]
      rfl

theorem readMembers_print {members : List (String × Json)} {depth fuel : Nat} {rest : List Char}
    (h : LegibleMembers depth members) (hFuel : (printMembers members).length ≤ fuel) :
    readMembers fuel depth (printMembers members ++ rest) = some (members, rest) := by
  cases members with
  | nil =>
      obtain ⟨fuel, rfl⟩ : ∃ n, fuel = n + 1 :=
        ⟨fuel - 1, by simp [printMembers] at hFuel; omega⟩
      simp [readMembers, printMembers, skipSpace_cons, isSpace]
  | cons e members =>
      obtain ⟨k, v⟩ := e
      simp only [printMembers, List.length_cons, List.length_append] at hFuel
      obtain ⟨fuel, rfl⟩ : ∃ n, fuel = n + 1 := ⟨fuel - 1, by omega⟩
      have hKey : readKey fuel (quote k ++ ':' :: (print v ++ (printMembers members ++ rest))) =
          some (k, print v ++ (printMembers members ++ rest)) :=
        readKey_quote k (by omega) _
      have hValue : readValue fuel depth (print v ++ (printMembers members ++ rest)) =
          some (v, printMembers members ++ rest) :=
        readValue_print h.1 (by omega) (ends_printMembers members rest)
      have hRest : readMembers fuel depth (printMembers members ++ rest) =
          some (members, rest) :=
        readMembers_print h.2 (by omega)
      simp only [printMembers, List.cons_append, List.append_assoc]
      rw [readMembers, skipSpace_cons (by decide)]
      simp only [hKey, hValue, hRest, Option.bind_eq_bind, Option.bind_some]
      rfl

end

/-- The compact form of a value is read as that value. -/
theorem parse?_compress {v : Json} (h : v.Legible maxDepth) : parse? (compress v) = some v := by
  have hRead : readValue ((print v).length + 1) maxDepth (print v ++ []) = some (v, []) :=
    readValue_print h (Nat.le_succ _) Number.ends_nil
  rw [List.append_nil] at hRead
  rw [parse?, compress, String.toList_ofList, parseChars?, hRead]
  rfl

end StoryTrace.Json
