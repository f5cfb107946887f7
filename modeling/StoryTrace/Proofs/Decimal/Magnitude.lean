import Mathlib
import StoryTrace.Decimal.Binary

/-!
# Magnitudes of doubles

How large the doubles are that come out of rounding, packing and arithmetic. A bound on the place of
the leading digit goes up by a few places in each of them, so doubles that are computed from whole
numbers of 64 bits stay finite.
-/

namespace StoryTrace.Decimal

open Float.Model Float.Model.UnpackedFloat

/-- The double is finite, and its leading digit stands at that binary place or below. -/
inductive Within (k : Int) : UnpackedFloat → Prop where
  | zero (s : Sign) : Within k (.zero s)
  | finite (s : Sign) {mantissa : Nat} {exponent : Int} (positive : 0 < mantissa)
      (h : totalExponent mantissa exponent ≤ k) : Within k (.finite s mantissa exponent positive)

namespace Within

variable {k l : Int} {u v : UnpackedFloat}

theorem mono (h : Within k u) (hLe : k ≤ l) : Within l u := by
  cases h with
  | zero s => exact .zero s
  | finite s positive h => exact .finite s positive (Int.le_trans h hLe)

theorem isFinite (h : Within k u) : u.isFinite = true := by
  cases h <;> rfl

theorem neg (h : Within k u) : Within k u.neg := by
  cases h with
  | zero s => exact .zero (-s)
  | finite s positive h => exact .finite (-s) positive h

end Within

/-! ## Rounding -/

theorem mantissa_shiftRight (em : ExtendedMantissa) (n : Nat) :
    (em >>> n).mantissa = em.mantissa / 2 ^ n := by
  induction n with
  | zero => exact (Nat.div_one _).symm
  | succ n ih =>
      calc (em >>> (n + 1)).mantissa
        _ = (em >>> n).mantissa / 2 := rfl
        _ = em.mantissa / 2 ^ (n + 1) := by rw [ih, Nat.div_div_eq_div_mul, Nat.pow_succ]

theorem mantissa_shiftToExponent (m : Nat) (e : Int) (accuracy : Accuracy) (target : Int) :
    (shiftToExponent m e accuracy target).1.mantissa = m / 2 ^ (target - e).toNat := by
  have hSame : (ExtendedMantissa.ofMantissaAndAccuracy m accuracy).mantissa = m := by
    rcases accuracy with _ | _ | _ | _ <;> rfl
  rw [shiftToExponent, mantissa_shiftRight, hSame]

theorem roundedMantissa_le (em : ExtendedMantissa) : em.roundedMantissa ≤ em.mantissa + 1 := by
  rcases em with ⟨m, _ | _, _ | _⟩ <;>
    simp only [ExtendedMantissa.roundedMantissa, ExtendedMantissa.accuracy,
      Accuracy.roundToNearestEven] <;> omega

/-- The digits that are shifted out are not the leading ones, unless all are. -/
theorem log2_div_two_pow {m n : Nat} (h : m / 2 ^ n ≠ 0) : (m / 2 ^ n).log2 + n ≤ m.log2 := by
  have hm : m ≠ 0 := by
    rintro rfl
    exact h (Nat.zero_div _)
  rw [Nat.le_log2 hm, Nat.pow_add]
  exact (Nat.le_div_iff_mul_le (Nat.two_pow_pos n)).1 (Nat.log2_self_le h)

theorem log2_lt_of_lt_two_pow {m n : Nat} (hn : 0 < n) (h : m < 2 ^ n) : m.log2 < n := by
  by_cases hm : m = 0
  · simpa [hm] using hn
  · exact (Nat.log2_lt hm).2 h

theorem log2_mono {m n : Nat} (h : m ≤ n) : m.log2 ≤ n.log2 :=
  Nat.le_of_lt_succ (log2_lt_of_lt_two_pow (Nat.succ_pos _) (Nat.lt_of_le_of_lt h Nat.lt_log2_self))

theorem log2_le_of_le_add_one {m n : Nat} (h : m ≤ n + 1) : m.log2 ≤ n.log2 + 1 := by
  have hLess : n < 2 ^ (n.log2 + 1) := Nat.lt_log2_self
  have hPower : 2 ^ (n.log2 + 1) < 2 ^ (n.log2 + 1 + 1) :=
    Nat.pow_lt_pow_right (by decide) (Nat.lt_succ_self _)
  by_cases hm : m = 0
  · simp [hm]
  · have := (Nat.log2_lt hm).2 (show m < 2 ^ (n.log2 + 1 + 1) by omega)
    omega

/-- The leading digit of what is left of a mantissa stands where it stood, unless it is shifted
out. -/
theorem totalExponent_shiftToTargetExponent {m : Nat} {e : Int} (accuracy : Accuracy)
    (h : (shiftToTargetExponent Format.binary64 m e accuracy).1.mantissa ≠ 0) :
    totalExponent (shiftToTargetExponent Format.binary64 m e accuracy).1.mantissa
      (shiftToTargetExponent Format.binary64 m e accuracy).2 ≤ totalExponent m e := by
  rw [shiftToTargetExponent, mantissa_shiftToExponent] at h ⊢
  have := log2_div_two_pow h
  simp only [totalExponent, shiftToExponent] at *
  omega

theorem shiftToTargetExponent_snd_lt {m : Nat} {e k : Int} (accuracy : Accuracy)
    (h : totalExponent m e ≤ k) (hLow : -1074 ≤ k) :
    (shiftToTargetExponent Format.binary64 m e accuracy).2 ≤ k := by
  simp only [shiftToTargetExponent, shiftToExponent, Format.targetExponent, Format.mantissaBits,
    Format.minExponent, totalExponent] at *
  omega

/-- Rounding carries the leading digit up by one place at most. -/
theorem within_roundWithAccuracy (s : Sign) {m : Nat} {e k : Int} (accuracy : Accuracy)
    (h : totalExponent m e ≤ k) (hLow : -1074 ≤ k) :
    Within (k + 1) (roundWithAccuracy Format.binary64 s m e accuracy) := by
  have hExponent := shiftToTargetExponent_snd_lt accuracy h hLow
  have hKept (hNonzero : (shiftToTargetExponent Format.binary64 m e accuracy).1.mantissa ≠ 0) :=
    Int.le_trans (totalExponent_shiftToTargetExponent accuracy hNonzero) h
  unfold roundWithAccuracy
  generalize shiftToTargetExponent Format.binary64 m e accuracy = first at *
  obtain ⟨em, e'⟩ := first
  have hRounded : totalExponent em.roundedMantissa e' ≤ k + 1 := by
    have hLe := roundedMantissa_le em
    by_cases hZero : em.mantissa = 0
    · have hSmall : em.roundedMantissa.log2 = 0 := by
        rcases Nat.le_one_iff_eq_zero_or_eq_one.1 (hZero ▸ hLe) with hIs | hIs <;> rw [hIs] <;> rfl
      simp only [totalExponent, hSmall] at *
      omega
    · have hLog := log2_le_of_le_add_one hLe
      have hTotal := hKept hZero
      simp only [totalExponent] at *
      omega
  simp only
  split
  case isTrue => exact .zero s
  case isFalse hNonzero =>
    exact .finite s _
      (Int.le_trans (totalExponent_shiftToTargetExponent .exact hNonzero) hRounded)

theorem log2_shiftLeft_le (m n : Nat) : (m <<< n).log2 ≤ m.log2 + n := by
  have hLess : m <<< n < 2 ^ (m.log2 + n + 1) := by
    rw [Nat.shiftLeft_eq, Nat.add_right_comm, Nat.pow_add]
    exact Nat.mul_lt_mul_of_pos_right Nat.lt_log2_self (Nat.two_pow_pos n)
  exact Nat.le_of_lt_succ (log2_lt_of_lt_two_pow (Nat.succ_pos _) hLess)

theorem log2_mul_le (m n : Nat) : (m * n).log2 ≤ m.log2 + n.log2 + 1 := by
  have hLess : m * n < 2 ^ (m.log2 + n.log2 + 2) := by
    have hPower : 2 ^ (m.log2 + n.log2 + 2) = 2 ^ (m.log2 + 1) * 2 ^ (n.log2 + 1) := by
      rw [← Nat.pow_add]
      congr 1
      omega
    rw [hPower]
    exact Nat.mul_lt_mul'' Nat.lt_log2_self Nat.lt_log2_self
  exact Nat.le_of_lt_succ (log2_lt_of_lt_two_pow (Nat.succ_pos _) hLess)

theorem within_round (s : Sign) {m : Nat} {e k : Int} (h : totalExponent m e ≤ k)
    (hLow : -1074 ≤ k) : Within (k + 1) (round Format.binary64 s m e) := by
  refine within_roundWithAccuracy s .exact (Int.le_trans ?_ h) hLow
  have := log2_shiftLeft_le m (e - Format.binary64.targetExponent (totalExponent m e)).toNat
  simp only [totalExponent] at *
  omega

/-! ## Packing -/

/-- What the components of a finite double name. -/
theorem within_unpack_packComponents (s : Sign) {biased : BitVec 11} (hFinite : biased.toNat < 2047)
    (mantissa : BitVec 52) :
    Within (biased.toNat - 1021) (UnpackedFloat.unpack Format.binary64
      (packComponents Format.binary64 s biased mantissa)) := by
  have hMantissa := mantissa.isLt
  have hNotOnes : biased ≠ -1#11 := by
    rintro rfl
    exact absurd hFinite (by decide)
  simp only [UnpackedFloat.unpack, unpackMantissa_packComponents, unpackExponent_packComponents,
    if_neg hNotOnes]
  split
  case isTrue hZero =>
    split
    case isTrue => exact .zero _
    case isFalse =>
      have hLog := log2_lt_of_lt_two_pow (by decide) hMantissa
      refine .finite _ _ ?_
      simp only [totalExponent, Format.exponentBias, hZero]
      omega
  case isFalse =>
    have hLog : (1#1 ++ mantissa).toNat.log2 < 53 :=
      log2_lt_of_lt_two_pow (by decide) (1#1 ++ mantissa).isLt
    refine .finite _ _ ?_
    simp only [totalExponent, Format.exponentBias]
    omega

/-- A double that is not too large is packed without overflow. -/
theorem Within.unpack_pack {k : Int} {u : UnpackedFloat} (h : Within k u) (hLow : -1074 ≤ k)
    (hHigh : k ≤ 971) : Within (k + 53) (Float.Model.pack u).unpack := by
  have hPacked (s : Sign) (biased : BitVec 11) (mantissa : BitVec 52)
      (hBiased : (biased.toNat : Int) ≤ k + 1074) :
      Within (k + 53) (UnpackedFloat.unpack Format.binary64
        (packComponents Format.binary64 s biased mantissa)) :=
    (within_unpack_packComponents s (by omega) mantissa).mono (by omega)
  cases h with
  | zero s => exact hPacked s 0 0 (by simp; omega)
  | @finite s m e hm hTotal =>
      have hFits : (e + 1023 + 52).toNat ≤ k + 1074 := by
        simp only [totalExponent] at hTotal
        omega
      have hPack : UnpackedFloat.pack Format.binary64 (.finite s m e hm) =
          if m.log2 + 1 = 53 then packComponents Format.binary64 s
            (BitVec.ofNat 11 (e + 1023 + 52).toNat) (BitVec.ofNat 52 m)
          else packComponents Format.binary64 s 0 (BitVec.ofNat 52 m) :=
        if_neg (show ¬ 2 ^ 11 ≤ (e + 1023 + 52).toNat + 1 by omega)
      show Within (k + 53) (UnpackedFloat.unpack Format.binary64
        (UnpackedFloat.pack Format.binary64 (.finite s m e hm)))
      rw [hPack]
      split
      case isTrue =>
        refine hPacked s _ _ ?_
        rw [BitVec.toNat_ofNat, Nat.mod_eq_of_lt (by omega)]
        exact hFits
      case isFalse => exact hPacked s 0 _ (by simp; omega)

/-! ## Arithmetic -/

theorem Within.mul {k l : Int} {u v : UnpackedFloat} (hu : Within k u) (hv : Within l v)
    (hLow : -1074 ≤ k + l) : Within (k + l + 1) (UnpackedFloat.mul Format.binary64 u v) := by
  cases hu with
  | zero s => cases hv <;> exact .zero _
  | @finite s m e positive h =>
      cases hv with
      | zero s => exact .zero _
      | @finite s' m' e' positive' h' =>
          refine within_roundWithAccuracy (s * s') .exact ?_ hLow
          have := log2_mul_le m m'
          simp only [totalExponent] at *
          omega

/-- A quotient has the place of the dividend, raised by the exponent of the divisor. -/
theorem Within.div_finite {k e' : Int} {u : UnpackedFloat} (hu : Within k u) (s' : Sign) {m' : Nat}
    (hm' : 0 < m') (hLow : -1074 ≤ k - e') :
    Within (k - e' + 1) (UnpackedFloat.div Format.binary64 u (.finite s' m' e' hm')) := by
  cases hu with
  | zero s => exact .zero _
  | @finite s m e positive h =>
      refine within_roundWithAccuracy (s / s') _ ?_ hLow
      have := log2_shiftLeft_le m (e - e' - min (e - e') (Format.binary64.targetExponent
        (totalExponent m e - totalExponent m' e'))).toNat
      have := log2_mono (Nat.div_le_self (m <<< (e - e' - min (e - e')
        (Format.binary64.targetExponent (totalExponent m e - totalExponent m' e'))).toNat) m')
      simp only [totalExponent] at *
      omega

/-! ## Whole numbers -/

theorem within_ofInt {n : Int} (h : n.natAbs < 2 ^ 64) :
    Within 65 (UnpackedFloat.ofInt Format.binary64 n) := by
  have hTotal {m : Nat} (hm : m < 2 ^ 64) : totalExponent m 0 ≤ 64 := by
    have := log2_lt_of_lt_two_pow (by decide) hm
    simp only [totalExponent]
    omega
  unfold UnpackedFloat.ofInt UnpackedFloat.normalize
  split
  case h_1 => exact within_round .negative (hTotal (by omega)) (by decide)
  case h_2 => exact .zero _
  case h_3 => exact within_round .positive (hTotal (by omega)) (by decide)

/-- Whole numbers that are exact are multiplied by one, others are rounded. -/
theorem within_ofNat {n : Nat} (h : n < 2 ^ 64) : Within 173 (Float.ofNat n).toModel.unpack := by
  unfold Float.ofNat
  change Within 173 (Float.ofScientific n false 0).toModel.unpack
  unfold Float.ofScientific
  split
  case isTrue hExact =>
    have hWhole : Within 118 (n.toUInt64.toFloat).toModel.unpack :=
      (within_ofInt (n := n.toUInt64.toNat) n.toUInt64.toNat_lt).unpack_pack (by decide) (by decide)
    have hOne : Within 1 (Float.ofBits 0x3FF0000000000000).toModel.unpack := by
      have hUnpacked : (Float.ofBits 0x3FF0000000000000).toModel.unpack =
          .finite .positive 4503599627370496 (-52) (by decide) := rfl
      rw [hUnpacked]
      exact .finite _ _ (by decide)
    exact (hWhole.mul hOne (by decide)).unpack_pack (by decide) (by decide)
  case isFalse =>
    have hRounded : Within 66 (UnpackedFloat.ofScientific Format.binary64 n 0) := by
      unfold UnpackedFloat.ofScientific
      split
      case isTrue => exact .zero _
      case isFalse hn =>
        have hTiny : ¬ (0 : Int) < -((2 ^ 11 : Int) + n.log2) := by omega
        rw [if_neg (by decide), if_neg hTiny, if_pos (by decide)]
        have hWhole : totalExponent (n <<< Format.binary64.mantissaBits)
            (-Format.binary64.mantissaBits) ≤ 64 := by
          have := log2_shiftLeft_le n Format.binary64.mantissaBits
          have := log2_lt_of_lt_two_pow (by decide) h
          simp only [totalExponent]
          omega
        exact Within.mul (k := 64) (l := 1) (.finite _ _ hWhole) (.finite _ _ (by decide))
          (by decide)
    exact (hRounded.unpack_pack (by decide) (by decide)).mono (by decide)

theorem within_toModel_ofInt {n : Int} (h : n.natAbs < 2 ^ 64) :
    Within 226 (Float.ofInt n).toModel.unpack := by
  cases n with
  | ofNat n => exact (within_ofNat h).mono (by decide)
  | negSucc n => exact (within_ofNat h).neg.unpack_pack (by decide) (by decide)

/-- A whole number of 64 bits is finite in thousandths. -/
theorem isFinite_ofInt_div_thousand {n : Int} (h : n.natAbs < 2 ^ 64) :
    (Float.ofInt n / 1000.0).isFinite = true := by
  have hThousand : (1000.0 : Float).toModel.unpack =
      .finite .positive 8796093022208000 (-43) (by decide) := by
    rfl
  have hQuotient : Within 270 (UnpackedFloat.div Format.binary64 (Float.ofInt n).toModel.unpack
      (1000.0 : Float).toModel.unpack) := by
    rw [hThousand]
    exact (within_toModel_ofInt h).div_finite .positive _ (by decide : -1074 ≤ 226 - (-43 : Int))
  exact (hQuotient.unpack_pack (by decide) (by decide)).isFinite

end StoryTrace.Decimal
