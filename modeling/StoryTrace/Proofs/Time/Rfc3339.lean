import Mathlib.Algebra.Group.Nat.Defs
import StoryTrace.Proofs.Time.Calendar
import StoryTrace.Time.Rfc3339

/-!
# Times read back

A written time is read as the instant that it was written for, leap seconds included. Every number
of the text either has as many digits as the reader takes or stands before a character that is no
digit.
-/

namespace StoryTrace

/-- The instants that a date of the calendar and a time of day name. A leap second comes at the end
of a minute. -/
structure Instant.Dated (t : Instant) : Prop where
  year : Date.yearRange (Date.ofInstant t).year = true
  nano : t.nano < 1000000000 ∨ t.nano < 2000000000 ∧ t.second % 60 = 59

namespace Rfc3339

/-! ## Numbers -/

theorem isDigit_of_mem_padded {width n : Nat} {c : Char} (h : c ∈ padded width n) :
    c.isDigit = true := by
  rcases List.mem_append.1 h with hZero | hDigit
  · rw [(List.mem_replicate.1 hZero).2]
    rfl
  · exact Nat.isDigit_of_mem_toDigits (by decide) (by decide) hDigit

theorem length_padded {width n : Nat} (hWidth : 0 < width) (h : n < 10 ^ width) :
    (padded width n).length = width := by
  have hShort := (Nat.length_toDigits_le_iff (by decide) hWidth).2 h
  rw [padded, List.length_append, List.length_replicate]
  omega

theorem exists_padded_eq_cons (width n : Nat) :
    ∃ c rest, padded width n = c :: rest ∧ c.isDigit = true := by
  cases hDigits : padded width n with
  | nil => exact absurd (List.append_eq_nil_iff.1 hDigits).2 Nat.toDigits_ne_nil
  | cons c rest => exact ⟨c, rest, rfl, isDigit_of_mem_padded (hDigits ▸ List.mem_cons_self ..)⟩

theorem value_padded (width n : Nat) :
    (padded width n).foldl (fun n c => 10 * n + (c.toNat - '0'.toNat)) 0 = n := by
  rw [← Nat.ofDigitChars_eq_foldl, padded, Nat.ofDigitChars_append,
    Nat.ofDigitChars_replicate_zero]
  exact Nat.ofDigitChars_toDigits (by decide) (by decide)

/-- The text does not start with a digit. -/
def Stops (rest : List Char) : Prop := ∀ c ∈ rest.head?, c.isDigit = false

theorem stops_cons {c : Char} (h : c.isDigit = false) (rest : List Char) : Stops (c :: rest) := by
  intro d hd
  obtain rfl := Option.some.inj hd
  exact h

theorem takeWhile_isDigit_take {rest : List Char} (h : Stops rest) (n : Nat) :
    (rest.take n).takeWhile Char.isDigit = [] := by
  cases rest with
  | nil => simp
  | cons c rest =>
      cases n with
      | zero => rfl
      | succ n => simp [h c rfl]

/-- A padded number is read up to its last digit. -/
theorem number_padded {width n most : Nat} {rest : List Char}
    (hFits : (padded width n).length ≤ most)
    (hEnd : (padded width n).length = most ∨ Stops rest) :
    number most (padded width n ++ rest) = some (n, rest) := by
  have hTaken : ((padded width n ++ rest).take most).takeWhile Char.isDigit = padded width n := by
    have hNone : (rest.take (most - (padded width n).length)).takeWhile Char.isDigit = [] := by
      rcases hEnd with hFull | hStops
      · rw [hFull, Nat.sub_self, List.take_zero, List.takeWhile_nil]
      · exact takeWhile_isDigit_take hStops _
    rw [List.take_append, List.take_of_length_le hFits,
      List.takeWhile_append_of_pos fun c => isDigit_of_mem_padded, hNone, List.append_nil]
  obtain ⟨c, tail, hCons, -⟩ := exists_padded_eq_cons width n
  rw [number]
  simp only [hTaken, value_padded, List.drop_left]
  rw [hCons]
  rfl

theorem isBlank_of_isDigit {c : Char} (h : c.isDigit = true) : Text.isBlank c = false := by
  rw [Char.isDigit, Bool.and_eq_true, decide_eq_true_iff, decide_eq_true_iff, ge_iff_le,
    UInt32.le_iff_toNat_le, UInt32.le_iff_toNat_le] at h
  have hLow : 48 ≤ c.toNat := h.1
  have hHigh : c.toNat ≤ 57 := h.2
  simp only [Text.isBlank, Bool.or_eq_false_iff, Bool.and_eq_false_iff, decide_eq_false_iff_not,
    beq_eq_false_iff_ne]
  omega

theorem trimStart_cons {c : Char} (h : Text.isBlank c = false) (rest : List Char) :
    Text.trimStart (c :: rest) = c :: rest := by
  simp [Text.trimStart, h]

theorem item_padded {width n most : Nat} {rest : List Char}
    (hFits : (padded width n).length ≤ most)
    (hEnd : (padded width n).length = most ∨ Stops rest) :
    item most (padded width n ++ rest) = some (n, rest) := by
  obtain ⟨c, tail, hCons, hDigit⟩ := exists_padded_eq_cons width n
  rw [item, hCons, List.cons_append, trimStart_cons (isBlank_of_isDigit hDigit),
    ← List.cons_append, ← hCons, number_padded hFits hEnd]

/-- Two digits are read as a number of two digits, whatever follows. -/
theorem item_two {n : Nat} (h : n < 100) (rest : List Char) :
    item 2 (padded 2 n ++ rest) = some (n, rest) := by
  have hLength : (padded 2 n).length = 2 := length_padded (by decide) h
  exact item_padded (Nat.le_of_eq hLength) (.inl hLength)

theorem mark_cons {c : Char} (h : Text.isBlank c = false) (rest : List Char) :
    mark c (c :: rest) = some rest := by
  rw [mark, trimStart_cons h]
  exact if_pos rfl

/-! ## Parts of a time -/

/-- A year without a sign has four digits, and one with a sign ends before the next mark. -/
theorem year_yearText (y : Int) (rest : List Char) :
    year (yearText y ++ '-' :: rest) = some (y, '-' :: rest) := by
  have hStops : Stops ('-' :: rest) := stops_cons rfl rest
  unfold yearText
  split
  case isTrue hPlain =>
    have hLength : (padded 4 y.toNat).length = 4 := length_padded (by decide) (by omega)
    have hNumber : number 4 (padded 4 y.toNat ++ '-' :: rest) = some (y.toNat, '-' :: rest) :=
      number_padded (Nat.le_of_eq hLength) (.inl hLength)
    obtain ⟨c, tail, hCons, hDigit⟩ := exists_padded_eq_cons 4 y.toNat
    rw [hCons, List.cons_append] at hNumber ⊢
    have hMinus : c ≠ '-' := by
      rintro rfl
      cases hDigit
    have hPlus : c ≠ '+' := by
      rintro rfl
      cases hDigit
    simp [year, trimStart_cons (isBlank_of_isDigit hDigit), hMinus, hPlus, hNumber]
    omega
  case isFalse hSigned =>
    have hNumber : number (padded 4 y.natAbs ++ '-' :: rest).length
        (padded 4 y.natAbs ++ '-' :: rest) = some (y.natAbs, '-' :: rest) := by
      apply number_padded _ (.inr hStops)
      rw [List.length_append]
      exact Nat.le_add_right _ _
    split
    case isTrue hNegative =>
      rw [List.cons_append, year, trimStart_cons rfl]
      simp only [hNumber, Option.map_some, Int.ofNat_eq_natCast]
      congr 2
      omega
    case isFalse hPositive =>
      rw [List.cons_append, year, trimStart_cons rfl]
      simp only [hNumber, Option.map_some, Int.ofNat_eq_natCast]
      congr 2
      omega

theorem fraction_padded {width n : Nat} {rest : List Char} (hWidth : 0 < width)
    (hMost : width ≤ 9) (h : n < 10 ^ width) (hStops : Stops rest) :
    fraction ('.' :: (padded width n ++ rest)) = some (n * Nat.pow 10 (9 - width), rest) := by
  have hLength := length_padded hWidth h
  have hNumber : number 9 (padded width n ++ rest) = some (n, rest) :=
    number_padded (by omega) (.inr hStops)
  have hRest : rest.dropWhile Char.isDigit = rest := by
    cases rest with
    | nil => rfl
    | cons c rest => simp [hStops c rfl]
  rw [fraction, hNumber]
  simp only [Option.bind_eq_bind, Option.bind_some, List.length_append, hLength,
    Nat.add_sub_cancel, hRest]
  rfl

theorem fraction_fractionText (t : Instant) :
    fraction (fractionText t ++ ['Z']) = some (t.nano % 1000000000, ['Z']) := by
  have hStops : Stops ['Z'] := stops_cons rfl []
  unfold fractionText
  simp only
  split
  case isTrue hNone =>
    rw [hNone]
    rfl
  split
  case isTrue hMillis =>
    rw [List.cons_append, fraction_padded (by decide) (by decide) (by omega) hStops]
    exact congrArg (fun n => some (n, ['Z'])) (Nat.div_mul_cancel (Nat.dvd_of_mod_eq_zero hMillis))
  split
  case isTrue hMicros =>
    rw [List.cons_append, fraction_padded (by decide) (by decide) (by omega) hStops]
    exact congrArg (fun n => some (n, ['Z'])) (Nat.div_mul_cancel (Nat.dvd_of_mod_eq_zero hMicros))
  case isFalse =>
    rw [List.cons_append, fraction_padded (by decide) (by decide) (by omega) hStops]
    exact congrArg (fun n => some (n, ['Z'])) (Nat.mul_one _)

/-! ## The whole time -/

/-- The parts of a written time name the instant. -/
theorem assemble_ofInstant {t : Instant} (h : t.Dated) :
    assemble (.ofInstant t) (t.secondOfDay.toNat / 3600) (t.secondOfDay.toNat / 60 % 60)
      (t.secondOfDay.toNat % 60 + t.nano / 1000000000) (t.nano % 1000000000) 0 = some t := by
  obtain ⟨hYear, hNano⟩ := h
  have hDate : (Date.ofInstant t).valid = true := Date.valid_ofDays _ hYear
  have hDays : (Date.ofInstant t).toDays = t.second / 86400 := Date.toDays_ofDays _
  have hDay : t.secondOfDay = t.second % 86400 := rfl
  have hSecond : t.secondOfDay.toNat % 60 + t.nano / 1000000000 ≤ 60 := by omega
  have hSame : (⟨(Date.ofInstant t).toDays * 86400 + Int.ofNat (t.secondOfDay.toNat / 3600 * 3600 +
      t.secondOfDay.toNat / 60 % 60 * 60 + (t.secondOfDay.toNat % 60 + t.nano / 1000000000 -
        (t.secondOfDay.toNat % 60 + t.nano / 1000000000) / 60)) - 0,
      t.nano % 1000000000 + (t.secondOfDay.toNat % 60 + t.nano / 1000000000) / 60 * 1000000000⟩ :
        Instant) = t := by
    obtain ⟨second, nano⟩ := t
    simp only [Instant.mk.injEq, Int.ofNat_eq_natCast] at *
    constructor
    · omega
    · omega
  have hHour : t.secondOfDay.toNat / 3600 < 24 := by omega
  have hMinute : t.secondOfDay.toNat / 60 % 60 < 60 := by omega
  simp only [assemble, hDate, hHour, hMinute, hSecond, hSame, hYear]
  rfl

/-- The month and the day of a date take two digits each. -/
theorem date_lt {t : Instant} (h : t.Dated) :
    (Date.ofInstant t).month < 100 ∧ (Date.ofInstant t).day < 100 := by
  have hDate : (Date.ofInstant t).valid = true := Date.valid_ofDays _ h.year
  simp only [Date.valid, Bool.and_eq_true, decide_eq_true_eq] at hDate
  have hLength : Date.monthLength (Date.ofInstant t).year (Date.ofInstant t).month ≤ 31 := by
    unfold Date.monthLength
    repeat' split
    all_goals decide
  omega

theorem clock_lt {t : Instant} (h : t.Dated) : t.secondOfDay.toNat / 3600 < 100 ∧
    t.secondOfDay.toNat / 60 % 60 < 100 ∧
      t.secondOfDay.toNat % 60 + t.nano / 1000000000 < 100 := by
  have hDay : t.secondOfDay = t.second % 86400 := rfl
  have hNano := h.nano
  omega

/-- A written time is read as the instant that it was written for. -/
theorem read?_text {t : Instant} (h : t.Dated) : read? (text t) = some t := by
  obtain ⟨hMonth, hDay⟩ := date_lt h
  obtain ⟨hHour, hMinute, hSecond⟩ := clock_lt h
  have hChars : chars t ['Z'] = yearText (Date.ofInstant t).year ++ '-' ::
      (padded 2 (Date.ofInstant t).month ++ '-' :: (padded 2 (Date.ofInstant t).day ++ 'T' ::
        (padded 2 (t.secondOfDay.toNat / 3600) ++ ':' ::
          (padded 2 (t.secondOfDay.toNat / 60 % 60) ++ ':' ::
            (padded 2 (t.secondOfDay.toNat % 60 + t.nano / 1000000000) ++
              (fractionText t ++ ['Z'])))))) := by
    simp [chars, dateText, clockText]
  have hZone : zone (Text.trimStart ['Z']) = some (0, []) := rfl
  have hNext {α β : Type} {step : Option α} {a : α} (hStep : step = some a) (rest : α → Option β) :
      step.bind rest = rest a := by rw [hStep, Option.bind_some]
  rw [read?, text, String.toList_ofList, hChars, readChars, year_yearText]
  -- every part is read before simp looks at what is done with it
  simp only [↓Option.bind_eq_bind, ↓Option.bind_some, ↓hNext (mark_cons (c := '-') rfl _),
    ↓hNext (mark_cons (c := ':') rfl _), ↓hNext (item_two hMonth _), ↓hNext (item_two hDay _),
    ↓hNext (item_two hHour _), ↓hNext (item_two hMinute _), ↓hNext (item_two hSecond _),
    ↓hNext (fraction_fractionText t), ↓hNext hZone]
  exact assemble_ofInstant h

end Rfc3339

end StoryTrace
