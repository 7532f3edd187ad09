import Storefront.Proofs.Binary64.Rounding

/-!
# Rounding decimal numbers

`Binary64.ofDecimal` gives the number nearest to `digits · 10 ^ exponent` for every exponent:
`isRounding_ofDecimal`. Where it forms no power of ten because the exponent is far outside the range
of the format, the number is large enough to be infinite or small enough to be zero.
-/

namespace Storefront.Binary64

section

variable {q : ℚ}

/-- What is too large is rounded to an infinite number. -/
theorem isRounding_infinite (hq : overflow ≤ q) (negative : Bool) :
    IsRounding (if negative then -q else q) (withSign negative (2047 * 2 ^ 52)) := by
  rw [IsRounding, parts_withSign_infinite]
  cases negative with
  | false => exact hq
  | true => exact neg_le_neg hq

/-- A number that is not zero is no smaller than the smallest one. -/
theorem HasValue.two_zpow_le_abs {x : Float} (h : HasValue x q) (hq : q ≠ 0) :
    2 ^ (-1074 : ℤ) ≤ |q| := by
  obtain ⟨negative, m, e, hx, rfl⟩ := h.exists_parts
  have hm : 1 ≤ m := Nat.one_le_iff_ne_zero.mpr fun hzero ↦ hq (by rw [hzero, rational_zero])
  rw [abs_rational]
  calc (2 : ℚ) ^ (-1074 : ℤ) ≤ 2 ^ e :=
        zpow_le_zpow_right₀ one_le_two (IsSize.of_parts hx).le_exponent
    _ ≤ m * 2 ^ e := le_mul_of_one_le_left (by positivity) (by exact_mod_cast hm)

/-- One is smaller than what is infinite. -/
theorem one_lt_overflow : 1 < overflow :=
  abs_one (α := ℚ) ▸ hasValue_ofInt_one.abs_lt_overflow

/-- What is too small is rounded to zero. -/
theorem isRounding_zero (hq : |q| < 2 ^ (-1075 : ℤ)) (negative : Bool) :
    IsRounding q (withSign negative 0) := by
  have hstep : (2 : ℚ) ^ (-1074 : ℤ) = 2 ^ (-1075 : ℤ) * 2 := zpow_add_one₀ two_ne_zero (-1075)
  refine isRounding_of_finite (parts_withSign_zero negative) ?_ fun y r hy ↦ ?_
  · calc |q| < 2 ^ (-1075 : ℤ) := hq
      _ ≤ 1 := zpow_le_one_of_nonpos₀ one_le_two (by decide)
      _ < overflow := one_lt_overflow
  · rw [rational_zero, zero_sub, abs_neg]
    by_cases hr : r = 0
    · exact .inr ⟨by rw [hr, zero_sub, abs_neg], .inl hr.symm⟩
    · left
      have hleast := hy.two_zpow_le_abs hr
      have hsum : |r| - |q| ≤ |r - q| := abs_sub_abs_le_abs_sub r q
      linarith

/-- The number of digits of a number says how large it is. -/
theorem digits_between {n : Nat} (hn : 0 < n) :
    (10 : ℚ) ^ ((Nat.toDigits 10 n).length - 1 : ℤ) ≤ n ∧
      (n : ℚ) < 10 ^ ((Nat.toDigits 10 n).length : ℤ) := by
  have hpos : 0 < (Nat.toDigits 10 n).length := Nat.length_toDigits_pos
  obtain ⟨k, hk⟩ : ∃ k, (Nat.toDigits 10 n).length = k + 1 := ⟨_, (Nat.sub_add_cancel hpos).symm⟩
  have hhigh : n < 10 ^ (k + 1) :=
    (Nat.length_toDigits_le_iff (by decide) (by omega)).mp hk.le
  have hlow : 10 ^ k ≤ n := by
    rcases Nat.eq_zero_or_pos k with rfl | hk'
    · exact hn
    · by_contra hless
      have := (Nat.length_toDigits_le_iff (by decide) hk').mpr (not_le.mp hless)
      omega
  rw [hk]
  constructor
  · rw [Nat.cast_add_one, add_sub_cancel_right, zpow_natCast]
    exact_mod_cast hlow
  · rw [zpow_natCast]
    exact_mod_cast hhigh

/-- Numbers with more than 310 digits before the point are infinite. -/
theorem overflow_le_ten_zpow {k : Int} (hk : 310 ≤ k) : overflow ≤ 10 ^ k := by
  have hnat : 2 ^ 1024 ≤ 10 ^ 310 := by decide +kernel
  calc overflow ≤ 2 ^ 53 * 2 ^ (971 : ℤ) :=
        mul_le_mul_of_nonneg_right (by norm_num) (by positivity)
    _ = 2 ^ (1024 : ℤ) := (zpow_add₀ two_ne_zero 53 971).symm
    _ ≤ 10 ^ (310 : ℤ) := by exact_mod_cast hnat
    _ ≤ 10 ^ k := zpow_le_zpow_right₀ (by norm_num) hk

/-- Numbers with more than 330 zeros after the point are too small. -/
theorem ten_zpow_lt {k : Int} (hk : k ≤ -331) : (10 : ℚ) ^ k < 2 ^ (-1075 : ℤ) := by
  have hnat : 2 ^ 1075 < 10 ^ 331 := by decide +kernel
  calc (10 : ℚ) ^ k ≤ 10 ^ (-331 : ℤ) := zpow_le_zpow_right₀ (by norm_num) hk
    _ < 2 ^ (-1075 : ℤ) := by
        rw [zpow_neg, zpow_neg]
        exact inv_strictAnti₀ (by positivity) (by exact_mod_cast hnat)

end

/-- The quotient of whole numbers that a decimal number is, is rounded to the nearest number. -/
theorem isRounding_ofRatio_ten (negative : Bool) (digits : Nat) (exponent : Int) :
    IsRounding (signed negative digits * 10 ^ exponent)
      (if 0 ≤ exponent then ofRatio negative (digits * Nat.pow 10 exponent.toNat) 1
        else ofRatio negative digits (Nat.pow 10 (-exponent).toNat)) := by
  split
  · rename_i hpositive
    obtain ⟨k, rfl⟩ := Int.eq_ofNat_of_zero_le hpositive
    have hwhole : ((signed negative (digits * 10 ^ k) : ℤ) / (1 : ℕ) : ℚ) =
        signed negative digits * 10 ^ (k : ℤ) := by
      cases negative <;> simp [signed]
    rw [← hwhole]
    exact isRounding_ofRatio negative (digits * 10 ^ k) one_pos
  · rename_i hnegative
    obtain ⟨k, rfl⟩ : ∃ k : ℕ, exponent = -k := ⟨(-exponent).toNat, by omega⟩
    have hquotient : ((signed negative digits : ℤ) / (10 ^ k : ℕ) : ℚ) =
        signed negative digits * 10 ^ (-k : ℤ) := by
      rw [zpow_neg, zpow_natCast, div_eq_mul_inv, Nat.cast_pow, Nat.cast_ofNat]
    have hexponent : (- -(k : ℤ)).toNat = k := by omega
    rw [← hquotient, hexponent]
    exact isRounding_ofRatio negative digits (pow_pos (by decide : 0 < 10) k)

/-- Decimal numbers are rounded to the nearest number. -/
theorem isRounding_ofDecimal (negative : Bool) (digits : Nat) (exponent : Int) :
    IsRounding (signed negative digits * 10 ^ exponent) (ofDecimal negative digits exponent) := by
  rcases Nat.eq_zero_or_pos digits with rfl | hdigits
  · have hzero : ((signed negative 0 : ℤ) : ℚ) * 10 ^ exponent = 0 := by
      cases negative <;> simp [signed]
    rw [hzero, ofDecimal, if_pos rfl]
    exact (hasValue_withSign_zero negative).isRounding
  · obtain ⟨hlow, hhigh⟩ := digits_between hdigits
    have hpow : (0 : ℚ) < 10 ^ exponent := by positivity
    unfold ofDecimal
    rw [if_neg hdigits.ne']
    dsimp only
    split
    · rename_i hlarge
      rw [signed_mul]
      refine isRounding_infinite ?_ negative
      calc overflow ≤ 10 ^ ((Nat.toDigits 10 digits).length - 1 + exponent : ℤ) :=
            overflow_le_ten_zpow (by omega)
        _ = 10 ^ ((Nat.toDigits 10 digits).length - 1 : ℤ) * 10 ^ exponent :=
            zpow_add₀ (by norm_num) _ _
        _ ≤ digits * 10 ^ exponent := by gcongr
    · split
      · rename_i hsmall
        refine isRounding_zero ?_ negative
        have habs :
            |(signed negative digits : ℤ) * (10 : ℚ) ^ exponent| = digits * 10 ^ exponent := by
          rw [signed_mul]
          cases negative <;> simp [abs_of_pos, hpow]
        rw [habs]
        calc (digits * 10 ^ exponent : ℚ)
            < 10 ^ ((Nat.toDigits 10 digits).length : ℤ) * 10 ^ exponent := by gcongr
          _ = 10 ^ ((Nat.toDigits 10 digits).length + exponent : ℤ) :=
              (zpow_add₀ (by norm_num) _ _).symm
          _ < 2 ^ (-1075 : ℤ) := ten_zpow_lt (by omega)
      · exact isRounding_ofRatio_ten negative digits exponent

end Storefront.Binary64
