import LiveTemplate.Decimal.Binary64
import Mathlib.Data.Nat.Digits.Defs

namespace LiveTemplate.Binary64

theorem roundDiv_mul {q d : Nat} (hd : 0 < d) : roundDiv (q * d) d = q := by
  simp only [roundDiv, Nat.mul_div_cancel q hd, Nat.mul_mod_left]
  exact if_pos hd

theorem toNat_bits_ofMagnitude {m : Nat} (h : m < signBit) :
    (ofMagnitude false m).bits.toNat = m :=
  UInt64.toNat_ofNat_of_lt' (Nat.lt_trans h (by decide))

theorem isNegative_ofMagnitude {m : Nat} (h : m < signBit) :
    (ofMagnitude false m).isNegative = false := by
  rw [isNegative, toNat_bits_ofMagnitude h]
  exact decide_eq_false (Nat.not_le.mpr h)

theorem magnitude_ofMagnitude {m : Nat} (h : m < signBit) :
    (ofMagnitude false m).magnitude = m := by
  rw [magnitude, toNat_bits_ofMagnitude h, Nat.mod_eq_of_lt h]

theorem magnitude_eq_toNat {x : Binary64} (h : x.isNegative = false) :
    x.magnitude = x.bits.toNat :=
  Nat.mod_eq_of_lt (Nat.not_le.mp (of_decide_eq_false h))

theorem units_of_small {x : Binary64} (h : x.magnitude < fractions) : x.units = x.magnitude := by
  have hdiv : x.magnitude / fractions = 0 := Nat.div_eq_of_lt h
  rw [units, significand, scale, hdiv, if_pos rfl]
  rfl

/-- The units of a number by the exponent and the significand in its magnitude. -/
theorem units_of_parts {x : Binary64} {e q : Nat} (h : x.magnitude = e * fractions + q)
    (hlow : fractions ≤ q) (hhigh : q < 2 * fractions) : x.units = q * 2 ^ e := by
  have hdiv : x.magnitude / fractions = e + 1 := by
    rw [h]
    simp only [fractions] at *
    omega
  have hsum : fractions + x.magnitude % fractions = q := by
    rw [h]
    simp only [fractions] at *
    omega
  rw [units, significand, scale, hdiv, hsum, if_neg (Nat.succ_ne_zero e), Nat.add_sub_cancel,
    Nat.shiftLeft_eq]

theorem exists_parts {m : Nat} (h : fractions ≤ m) :
    ∃ e q, m = e * fractions + q ∧ fractions ≤ q ∧ q < 2 * fractions := by
  refine ⟨m / fractions - 1, fractions + m % fractions, ?_, ?_, ?_⟩ <;>
    simp only [fractions] at * <;> omega

/-- A larger magnitude has more units. -/
theorem units_lt_of_magnitude_lt {x y : Binary64} (h : x.magnitude < y.magnitude) :
    x.units < y.units := by
  by_cases hy : y.magnitude < fractions
  · rwa [units_of_small hy, units_of_small (Nat.lt_trans h hy)]
  · obtain ⟨e, q, hparts, hlow, hhigh⟩ := exists_parts (Nat.not_lt.mp hy)
    have hunits := units_of_parts hparts hlow hhigh
    have hpow : 0 < 2 ^ e := Nat.two_pow_pos e
    by_cases hx : x.magnitude < fractions
    · rw [units_of_small hx, hunits]
      calc x.magnitude < fractions := hx
        _ ≤ q := hlow
        _ ≤ q * 2 ^ e := Nat.le_mul_of_pos_right q hpow
    · obtain ⟨d, p, hparts', hlow', hhigh'⟩ := exists_parts (Nat.not_lt.mp hx)
      rw [units_of_parts hparts' hlow' hhigh', hunits]
      rcases Nat.lt_trichotomy d e with hde | rfl | hde
      · calc p * 2 ^ d < 2 * fractions * 2 ^ d := Nat.mul_lt_mul_of_pos_right hhigh'
              (Nat.two_pow_pos d)
          _ = fractions * 2 ^ (d + 1) := by rw [Nat.pow_succ, Nat.mul_comm 2, Nat.mul_assoc,
              Nat.mul_comm 2]
          _ ≤ fractions * 2 ^ e := Nat.mul_le_mul_left _ (Nat.pow_le_pow_right (by decide) hde)
          _ ≤ q * 2 ^ e := Nat.mul_le_mul_right _ hlow
      · refine Nat.mul_lt_mul_of_pos_right ?_ hpow
        omega
      · rw [hparts, hparts'] at h
        simp only [fractions] at *
        omega

/-- Numbers that are not negative and have the same units are the same. -/
theorem eq_of_units {x y : Binary64} (hx : x.isNegative = false) (hy : y.isNegative = false)
    (h : x.units = y.units) : x = y := by
  have hmagnitude : x.magnitude = y.magnitude := by
    rcases Nat.lt_trichotomy x.magnitude y.magnitude with hlt | heq | hlt
    · exact absurd h (Nat.ne_of_lt (units_lt_of_magnitude_lt hlt))
    · exact heq
    · exact absurd h.symm (Nat.ne_of_lt (units_lt_of_magnitude_lt hlt))
  rw [magnitude_eq_toNat hx, magnitude_eq_toNat hy] at hmagnitude
  cases x
  cases y
  exact congrArg mk (UInt64.toNat_inj.mp hmagnitude)

/-- The significand has room for a natural number of so many bits. -/
theorem exists_significand {k : Nat} (hk : 0 < k) (hle : k ≤ 2 ^ 53) :
    ∃ q, q * 2 ^ k.log2 = k * 2 ^ 52 ∧ 2 ^ 52 ≤ q ∧ q < 2 ^ 53 := by
  have hlow : 2 ^ k.log2 ≤ k := Nat.log2_self_le (Nat.ne_of_gt hk)
  have hhigh : k < 2 ^ (k.log2 + 1) := Nat.lt_log2_self
  by_cases hbits : k.log2 ≤ 52
  · have hpow : 0 < 2 ^ (52 - k.log2) := Nat.two_pow_pos _
    have hfull : 2 ^ k.log2 * 2 ^ (52 - k.log2) = 2 ^ 52 := by
      rw [← Nat.pow_add, Nat.add_sub_cancel' hbits]
    refine ⟨k * 2 ^ (52 - k.log2), ?_, ?_, ?_⟩
    · rw [Nat.mul_assoc, Nat.mul_comm (2 ^ (52 - k.log2)), hfull]
    · rw [← hfull]
      exact Nat.mul_le_mul_right _ hlow
    · calc k * 2 ^ (52 - k.log2) < 2 ^ (k.log2 + 1) * 2 ^ (52 - k.log2) :=
            Nat.mul_lt_mul_of_pos_right hhigh hpow
        _ = 2 ^ 53 := by
          rw [← Nat.pow_add]
          congr 1
          omega
  · have hmany : 2 ^ 53 ≤ 2 ^ k.log2 := Nat.pow_le_pow_right (by decide) (by omega)
    have heq : 2 ^ k.log2 = k := by omega
    exact ⟨2 ^ 52, by rw [heq, Nat.mul_comm], Nat.le_refl _, by decide⟩

theorem unitsOfOne_eq : unitsOfOne = 2 ^ (52 + 1022) := by
  show 1 <<< (52 + 1022) = 2 ^ (52 + 1022)
  generalize 52 + 1022 = n
  exact Nat.one_shiftLeft n

theorem log2_mul_two_pow {k : Nat} (hk : 0 < k) (n : Nat) : (k * 2 ^ n).log2 = k.log2 + n := by
  have hpow : 0 < 2 ^ n := Nat.two_pow_pos n
  rw [Nat.log2_eq_iff (Nat.ne_of_gt (Nat.mul_pos hk hpow))]
  constructor
  · rw [Nat.pow_add]
    exact Nat.mul_le_mul_right _ (Nat.log2_self_le (Nat.ne_of_gt hk))
  · rw [Nat.add_right_comm, Nat.pow_add]
    exact Nat.mul_lt_mul_of_pos_right Nat.lt_log2_self hpow

/-- A natural number is read without rounding. -/
theorem ofRatio?_one {k : Nat} (hk : 0 < k) (hle : k ≤ 2 ^ 53) :
    ∃ x, ofRatio? false k 1 = some x ∧ x.isNegative = false ∧ x.units = k * unitsOfOne := by
  obtain ⟨q, hq, hlow, hhigh⟩ := exists_significand hk hle
  have hbits : k.log2 < 54 :=
    (Nat.log2_lt (Nat.ne_of_gt hk)).mpr (Nat.lt_of_le_of_lt hle (by decide))
  have hlog : (k * unitsOfOne / 1).log2 - 52 = k.log2 + 1022 := by
    rw [Nat.div_one, unitsOfOne_eq, log2_mul_two_pow hk]
    omega
  have hscaled : q * 2 ^ (k.log2 + 1022) = k * unitsOfOne := by
    rw [unitsOfOne_eq, Nat.pow_add, Nat.pow_add, ← Nat.mul_assoc, hq, Nat.mul_assoc]
  have hround : roundDiv (k * unitsOfOne) (1 <<< (k.log2 + 1022)) = q := by
    rw [Nat.one_shiftLeft, ← hscaled, roundDiv_mul (Nat.two_pow_pos _)]
  have hm : (k.log2 + 1022) * fractions + q < infinityBits := by
    simp only [fractions, infinityBits]
    omega
  have hsign : (k.log2 + 1022) * fractions + q < signBit :=
    Nat.lt_trans hm (by decide)
  refine ⟨ofMagnitude false ((k.log2 + 1022) * fractions + q), ?_, isNegative_ofMagnitude hsign, ?_⟩
  · simp only [ofRatio?, hlog, hround]
    exact if_pos hm
  · rw [units_of_parts (magnitude_ofMagnitude hsign) hlow hhigh, hscaled]

theorem ofDecimal?_natural {k : Nat} (hle : k ≤ 2 ^ 53) :
    ∃ x, ofDecimal? false k 0 = some x ∧ x.isNegative = false ∧ x.units = k * unitsOfOne := by
  rcases Nat.eq_zero_or_pos k with rfl | hk
  · exact ⟨ofMagnitude false 0, rfl, by decide, by decide⟩
  · obtain ⟨x, hx, hsign, hunits⟩ := ofRatio?_one hk hle
    refine ⟨x, ?_, hsign, hunits⟩
    have hdigits : digitCount k ≤ 16 :=
      Nat.toDigits_length 10 k 16 (by decide) (Nat.lt_of_le_of_lt hle (by decide))
    have hleading : ¬ (k = 0 ∨ (0 : Int) + digitCount k < -400) := by omega
    simp only [ofDecimal?]
    rw [if_neg hleading, if_neg (by omega), if_pos (Int.le_refl 0)]
    simpa using hx

end LiveTemplate.Binary64
