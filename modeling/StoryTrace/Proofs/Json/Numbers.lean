import StoryTrace.Json.Number

/-!
# Numbers read back

A number is read up to the first character that cannot continue it, so what it is read as does not
depend on the text after it. Whole numbers of 64 bits read back from their own text.
-/

namespace StoryTrace.Json.Number

/-- A character that can stand in a number. -/
def Continues (c : Char) : Prop := c.isDigit = true ∨ c ∈ ['.', 'e', 'E', '+', '-']

instance (c : Char) : Decidable (Continues c) :=
  inferInstanceAs (Decidable (c.isDigit = true ∨ c ∈ ['.', 'e', 'E', '+', '-']))

/-- The text does not continue a number. -/
def Ends (rest : List Char) : Prop := ∀ c ∈ rest.head?, ¬ Continues c

/-- The number is what its own text is read as. -/
def ReadsBack (n : Number) : Prop :=
  ∃ written, scan n.chars = some (written, []) ∧ written.number? = some n

variable {cs left rest : List Char}

theorem ends_nil : Ends [] := nofun

theorem ends_cons {c : Char} (h : ¬ Continues c) (rest : List Char) : Ends (c :: rest) := by
  intro d hd
  obtain rfl := Option.some.inj hd
  exact h

theorem Ends.ne {c d : Char} (h : Ends (c :: rest)) (hd : Continues d) : c ≠ d := by
  rintro rfl
  exact h c rfl hd

theorem Ends.isDigit_eq_false {c : Char} (h : Ends (c :: rest)) : c.isDigit = false := by
  rw [← Bool.not_eq_true]
  exact fun hDigit => h c rfl (.inl hDigit)

/-! ## What follows a number -/

theorem takeDigits_append_of_ends (h : Ends rest) (cs : List Char) :
    takeDigits (cs ++ rest) = ((takeDigits cs).1, (takeDigits cs).2 ++ rest) := by
  induction cs with
  | nil =>
      cases rest with
      | nil => rfl
      | cons c rest => simp [takeDigits, h.isDigit_eq_false]
  | cons c cs ih =>
      cases hDigit : c.isDigit with
      | true => simpa [takeDigits, hDigit] using ih
      | false => simp [takeDigits, hDigit]

/-- The sign of a number, and what follows it. -/
def takeMinus (cs : List Char) : Bool × List Char :=
  match cs with
  | '-' :: rest => (true, rest)
  | _ => (false, cs)

theorem takeMinus_append (h : Ends rest) (cs : List Char) :
    takeMinus (cs ++ rest) = ((takeMinus cs).1, (takeMinus cs).2 ++ rest) := by
  cases cs with
  | nil =>
      cases rest with
      | nil => rfl
      | cons c rest => simp [takeMinus, h.ne (d := '-') (by decide)]
  | cons c cs =>
      by_cases hMinus : c = '-'
      · subst hMinus
        rfl
      · simp [takeMinus, hMinus]

/-- The sign of an exponent, and what follows it. -/
def takeSign (cs : List Char) : Bool × List Char :=
  match cs with
  | '-' :: rest => (true, rest)
  | '+' :: rest => (false, rest)
  | _ => (false, cs)

theorem takeSign_append (h : Ends rest) (cs : List Char) :
    takeSign (cs ++ rest) = ((takeSign cs).1, (takeSign cs).2 ++ rest) := by
  cases cs with
  | nil =>
      cases rest with
      | nil => rfl
      | cons c rest => simp [takeSign, h.ne (d := '-') (by decide), h.ne (d := '+') (by decide)]
  | cons c cs =>
      by_cases hMinus : c = '-'
      · subst hMinus
        rfl
      · by_cases hPlus : c = '+'
        · subst hPlus
          rfl
        · simp [takeSign, hMinus, hPlus]

theorem scanFraction_append (h : Ends rest) (cs : List Char) :
    scanFraction (cs ++ rest) = (scanFraction cs).map fun p => (p.1, p.2 ++ rest) := by
  cases cs with
  | nil =>
      cases rest with
      | nil => rfl
      | cons c rest => simp [scanFraction, h.ne (d := '.') (by decide)]
  | cons c cs =>
      by_cases hPoint : c = '.'
      · subst hPoint
        rw [List.cons_append, scanFraction, takeDigits_append_of_ends h, scanFraction]
        rcases takeDigits cs with ⟨_ | ⟨d, ds⟩, after⟩
        · rfl
        · rfl
      · simp [scanFraction, hPoint]

theorem scanExponent_cons_of_mark {c : Char} (hMark : c = 'e' ∨ c = 'E') (cs : List Char) :
    scanExponent (c :: cs) =
      match takeDigits (takeSign cs).2 with
      | ([], _) => none
      | (ds, rest) => some (some ((takeSign cs).1, ds), rest) := by
  simp only [scanExponent, hMark, if_true]
  rfl

theorem scanExponent_append (h : Ends rest) (cs : List Char) :
    scanExponent (cs ++ rest) = (scanExponent cs).map fun p => (p.1, p.2 ++ rest) := by
  cases cs with
  | nil =>
      cases rest with
      | nil => rfl
      | cons c rest =>
          simp [scanExponent, h.ne (d := 'e') (by decide), h.ne (d := 'E') (by decide)]
  | cons c cs =>
      by_cases hMark : c = 'e' ∨ c = 'E'
      · rw [List.cons_append, scanExponent_cons_of_mark hMark, scanExponent_cons_of_mark hMark,
          takeSign_append h, takeDigits_append_of_ends h]
        rcases takeDigits (takeSign cs).2 with ⟨_ | ⟨d, ds⟩, after⟩
        · rfl
        · rfl
      · simp [scanExponent, hMark]

/-- A number after its sign. -/
def scanUnsigned (negative : Bool) (cs : List Char) : Option (Written × List Char) :=
  match takeDigits cs with
  | ([], _) => none
  | (whole, rest) =>
    if whole.head? = some '0' ∧ 1 < whole.length then none
    else do
      let (fraction, rest) ← scanFraction rest
      let (exponent, rest) ← scanExponent rest
      return (⟨negative, whole, fraction, exponent⟩, rest)

theorem scan_eq (cs : List Char) :
    scan cs = scanUnsigned (takeMinus cs).1 (takeMinus cs).2 := rfl

theorem scan_of_ne_minus (h : cs.head? ≠ some '-') : scan cs = scanUnsigned false cs := by
  cases cs with
  | nil => rfl
  | cons c cs =>
      have hMinus : c ≠ '-' := by simpa using h
      rw [scan_eq, show takeMinus (c :: cs) = (false, c :: cs) by simp [takeMinus, hMinus]]

theorem scanUnsigned_append (h : Ends rest) (negative : Bool) (cs : List Char) :
    scanUnsigned negative (cs ++ rest) =
      (scanUnsigned negative cs).map fun p => (p.1, p.2 ++ rest) := by
  unfold scanUnsigned
  rw [takeDigits_append_of_ends h]
  rcases takeDigits cs with ⟨_ | ⟨d, ds⟩, after⟩
  · rfl
  · simp only [scanFraction_append h]
    split
    · rfl
    · cases scanFraction after with
      | none => rfl
      | some p =>
          simp only [Option.map_some, Option.bind_eq_bind, Option.bind_some,
            scanExponent_append h]
          cases scanExponent p.2 with
          | none => rfl
          | some q => rfl

/-- What follows a number makes no difference to how it is read. -/
theorem scan_append (h : Ends rest) (cs : List Char) :
    scan (cs ++ rest) = (scan cs).map fun p => (p.1, p.2 ++ rest) := by
  rw [scan_eq, scan_eq, takeMinus_append h, scanUnsigned_append h]

/-- A number holds no character that could not continue it. -/
theorem continues_of_scan {written : Written} (hScan : scan cs = some (written, [])) :
    ∀ c ∈ cs, Continues c := by
  intro c hc
  apply Decidable.byContradiction
  intro hOther
  obtain ⟨before, after, rfl⟩ := List.append_of_mem hc
  rw [scan_append (ends_cons hOther after)] at hScan
  obtain ⟨p, -, hRead⟩ := Option.map_eq_some_iff.1 hScan
  simp at hRead

/-- A number starts with a digit or a minus. -/
theorem exists_head_of_scan {written : Written} (hScan : scan cs = some (written, left)) :
    ∃ c more, cs = c :: more ∧ (c = '-' ∨ c.isDigit = true) := by
  cases cs with
  | nil => simp [scan, takeDigits] at hScan
  | cons c more =>
      refine ⟨c, more, rfl, ?_⟩
      by_cases hMinus : c = '-'
      · exact .inl hMinus
      · cases hDigit : c.isDigit with
        | true => exact .inr rfl
        | false =>
            rw [scan_of_ne_minus (by simpa using hMinus)] at hScan
            simp [scanUnsigned, takeDigits, hDigit] at hScan

/-! ## Whole numbers -/

theorem isDigit_of_mem_digitsOf {n : Nat} {c : Char} (h : c ∈ Decimal.digitsOf n) :
    c.isDigit = true :=
  Nat.isDigit_of_mem_toDigits (by decide) (by decide) h

theorem natOf_digitsOf (n : Nat) : natOf (Decimal.digitsOf n) = n :=
  Nat.ofDigitChars_toDigits (by decide) (by decide)

theorem digitsOf_ne_nil (n : Nat) : Decimal.digitsOf n ≠ [] := Nat.toDigits_ne_nil

/-- Only zero starts with a zero. -/
theorem head?_digitsOf {n : Nat} (h : 0 < n) : (Decimal.digitsOf n).head? ≠ some '0' := by
  induction n using Nat.strongRecOn with
  | ind n ih =>
      rw [Decimal.digitsOf, Nat.toDigits_eq_if (by decide)]
      split
      case isTrue hSmall =>
        have hDigit : ∀ d : Fin 10, 0 < d.val → d.val.digitChar ≠ '0' := by decide
        simpa using hDigit ⟨n, hSmall⟩ h
      case isFalse hLarge =>
        have hShorter := ih (n / 10) (by omega) (by omega)
        cases hDigits : Nat.toDigits 10 (n / 10) with
        | nil => exact absurd hDigits (digitsOf_ne_nil _)
        | cons d ds => simpa [Decimal.digitsOf, hDigits] using hShorter

theorem takeDigits_digitsOf (n : Nat) :
    takeDigits (Decimal.digitsOf n) = (Decimal.digitsOf n, []) := by
  have hDigits : ∀ c ∈ Decimal.digitsOf n, c.isDigit = true := fun c => isDigit_of_mem_digitsOf
  have hSplit : takeDigits (Decimal.digitsOf n ++ []) = (Decimal.digitsOf n ++ [], []) := by
    rw [takeDigits, List.takeWhile_append_of_pos hDigits, List.dropWhile_append_of_pos hDigits]
    rfl
  rwa [List.append_nil] at hSplit

theorem scanUnsigned_digitsOf (negative : Bool) (n : Nat) :
    scanUnsigned negative (Decimal.digitsOf n) =
      some (⟨negative, Decimal.digitsOf n, none, none⟩, []) := by
  have hZero : ¬ ((Decimal.digitsOf n).head? = some '0' ∧ 1 < (Decimal.digitsOf n).length) := by
    rintro ⟨hHead, hLong⟩
    rcases Nat.eq_zero_or_pos n with rfl | hPos
    · exact absurd hLong (by decide)
    · exact head?_digitsOf hPos hHead
  rw [scanUnsigned, takeDigits_digitsOf]
  cases hDigits : Decimal.digitsOf n with
  | nil => exact absurd hDigits (digitsOf_ne_nil n)
  | cons d ds =>
      rw [hDigits] at hZero
      simp only [if_neg hZero]
      rfl

theorem head?_digitsOf_ne_minus (n : Nat) : (Decimal.digitsOf n).head? ≠ some '-' := by
  intro hHead
  obtain ⟨more, hDigits⟩ := List.head?_eq_some_iff.1 hHead
  have hDigit := isDigit_of_mem_digitsOf (n := n) (c := '-') (by simp [hDigits])
  exact absurd hDigit (by decide)

/-- A whole number of 64 bits reads back. -/
theorem readsBack_int {n : Int} (hLow : -0x8000000000000000 ≤ n)
    (hHigh : n < 0x10000000000000000) : (Number.int n).ReadsBack := by
  by_cases hNegative : n < 0
  · refine ⟨⟨true, Decimal.digitsOf n.natAbs, none, none⟩, ?_, ?_⟩
    · rw [chars, intText, if_pos hNegative]
      exact scanUnsigned_digitsOf true n.natAbs
    · have hFits : 0 < n.natAbs ∧ n.natAbs ≤ 1 <<< 63 := by
        simp only [Nat.one_shiftLeft]
        omega
      have hSame : -Int.ofNat n.natAbs = n := by
        simp only [Int.ofNat_eq_natCast]
        omega
      simp only [Written.number?, natOf_digitsOf, if_true, if_pos hFits, hSame]
  · refine ⟨⟨false, Decimal.digitsOf n.natAbs, none, none⟩, ?_, ?_⟩
    · rw [chars, intText, if_neg hNegative, scan_of_ne_minus (head?_digitsOf_ne_minus _),
        scanUnsigned_digitsOf]
    · have hFits : n.natAbs < UInt64.size := by
        simp only [UInt64.size]
        omega
      have hSame : Int.ofNat n.natAbs = n := by
        simp only [Int.ofNat_eq_natCast]
        omega
      simp only [Written.number?, natOf_digitsOf, if_pos hFits, hSame, Bool.false_eq_true, if_false]

end StoryTrace.Json.Number
