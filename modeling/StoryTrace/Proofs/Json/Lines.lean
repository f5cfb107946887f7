import StoryTrace.Proofs.Json.Reading

/-!
# Values on one line

The compact form of a value holds no control character: those of a text are escaped. So values can
be written to a file with one value on every line.
-/

namespace StoryTrace.Json

/-- The text has no control character, so it stays on its line. -/
def InLine (cs : List Char) : Prop := (cs.all fun c => 0x20 ≤ c.toNat) = true

instance (cs : List Char) : Decidable (InLine cs) :=
  inferInstanceAs (Decidable ((cs.all fun c => 0x20 ≤ c.toNat) = true))

variable {c : Char} {cs : List Char}

theorem inLine_cons : InLine (c :: cs) ↔ 0x20 ≤ c.toNat ∧ InLine cs := by
  simp only [InLine, List.all_cons, Bool.and_eq_true, decide_eq_true_eq]

theorem inLine_append {more : List Char} : InLine (cs ++ more) ↔ InLine cs ∧ InLine more := by
  simp only [InLine, List.all_append, Bool.and_eq_true]

theorem inLine_iff : InLine cs ↔ ∀ c ∈ cs, 0x20 ≤ c.toNat := by
  simp only [InLine, List.all_eq_true, decide_eq_true_eq]

theorem InLine.newline_not_mem (h : InLine cs) : '\n' ∉ cs := fun hNewline =>
  absurd (inLine_iff.1 h _ hNewline) (by decide)

theorem InLine.getLast?_ne_return (h : InLine cs) : cs.getLast? ≠ some '\r' := fun hReturn =>
  absurd (inLine_iff.1 h '\r' (List.mem_of_getLast? hReturn)) (by decide)

/-! ## Texts and numbers -/

theorem inLine_hexDigits (width n : Nat) : InLine (Text.Hex.digits width n) := by
  induction width generalizing n with
  | zero => rfl
  | succ width ih =>
      have hDigit : ∀ m : Fin 16, InLine [Text.Hex.digit m] := by decide
      rw [Text.Hex.digits, inLine_append]
      exact ⟨ih (n / 16), hDigit ⟨n % 16, Nat.mod_lt n (by decide)⟩⟩

theorem inLine_escape (c : Char) : InLine (escape c) := by
  unfold escape
  iterate 7
    split
    · decide
  split
  case isTrue =>
    rw [inLine_cons, inLine_cons]
    exact ⟨by decide, by decide, inLine_hexDigits 4 c.toNat⟩
  case isFalse hPlain => exact inLine_cons.2 ⟨Nat.not_lt.1 hPlain, rfl⟩

theorem inLine_quote (s : String) : InLine (quote s) := by
  rw [quote, inLine_cons, inLine_append, inLine_iff]
  refine ⟨by decide, ?_, by decide⟩
  intro d hd
  obtain ⟨c, -, hEscaped⟩ := List.mem_flatMap.1 hd
  exact inLine_iff.1 (inLine_escape c) d hEscaped

theorem le_toNat_of_continues (h : Number.Continues c) : 0x20 ≤ c.toNat := by
  rcases h with hDigit | hMark
  · have hLow : '0'.toNat ≤ c.toNat := by
      simp only [Char.isDigit, Bool.and_eq_true, decide_eq_true_eq] at hDigit
      exact hDigit.1
    exact Nat.le_trans (by decide) hLow
  · have hAll : InLine ['.', 'e', 'E', '+', '-'] := by decide
    exact inLine_iff.1 hAll c hMark

theorem inLine_chars {n : Number} (h : n.ReadsBack) : InLine n.chars := by
  obtain ⟨written, hScan, -⟩ := h
  rw [inLine_iff]
  intro c hc
  exact le_toNat_of_continues (Number.continues_of_scan hScan c hc)

/-! ## Values -/

mutual

/-- The compact form of a value is a single line. -/
theorem inLine_print {v : Json} {depth : Nat} (h : v.Legible depth) : InLine (print v) := by
  cases v with
  | null => decide
  | bool b => cases b <;> decide
  | number n => exact inLine_chars h
  | string s => exact inLine_quote s
  | array items =>
      cases items with
      | nil => decide
      | cons v items =>
          rw [print, inLine_cons, inLine_append]
          exact ⟨by decide, inLine_print h.2.1, inLine_printItems h.2.2⟩
  | object members =>
      cases members with
      | nil => decide
      | cons e members =>
          obtain ⟨k, v⟩ := e
          rw [print, inLine_cons, inLine_append, inLine_cons, inLine_append]
          exact ⟨by decide, inLine_quote k, by decide, inLine_print h.2.1,
            inLine_printMembers h.2.2⟩

theorem inLine_printItems {items : List Json} {depth : Nat} (h : LegibleItems depth items) :
    InLine (printItems items) := by
  cases items with
  | nil => decide
  | cons v items =>
      rw [printItems, inLine_cons, inLine_append]
      exact ⟨by decide, inLine_print h.1, inLine_printItems h.2⟩

theorem inLine_printMembers {members : List (String × Json)} {depth : Nat}
    (h : LegibleMembers depth members) : InLine (printMembers members) := by
  cases members with
  | nil => decide
  | cons e members =>
      obtain ⟨k, v⟩ := e
      rw [printMembers, inLine_cons, inLine_append, inLine_cons, inLine_append]
      exact ⟨by decide, inLine_quote k, by decide, inLine_print h.1, inLine_printMembers h.2⟩

end

end StoryTrace.Json
