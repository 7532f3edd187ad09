import Storefront.Proofs.Binary64.Value

/-!
# Rounding to the nearest number

`IsRounding q x` says what it means that a number is the one nearest to an exact number, with
nothing said of how it is found: no finite number is nearer, a tie goes to the even mantissa, and
what is too large is infinite. Quotients are rounded in this way, `isRounding_ofRatio`.
-/

namespace Storefront.Binary64

/-- The size from which on a number is infinite: half way between the largest number and the one
that would come after it. -/
def overflow : ℚ :=
  (2 ^ 53 - 1 / 2) * 2 ^ (971 : Int)

/-- `IsRounding q x` says that a number is the one nearest to an exact number: no finite number is
nearer, and if another one is as near the mantissa is even. A size from `overflow` on is
infinite. -/
def IsRounding (q : ℚ) (x : Float) : Prop :=
  match parts x with
  | .nan => False
  | .infinite negative => if negative then q ≤ -overflow else overflow ≤ q
  | .finite negative mantissa exponent =>
      |q| < overflow ∧ ∀ y r, HasValue y r →
        |rational negative mantissa exponent - q| < |r - q| ∨
        |rational negative mantissa exponent - q| = |r - q| ∧
          (rational negative mantissa exponent = r ∨ Even mantissa)

section Scale

variable {num den : Nat}

/-- The parts of a quotient that was multiplied by a power of two. -/
theorem scale_spec (num : Nat) (hden : 0 < den) (k : Int) :
    0 < (scale num den k).2 ∧
      ((scale num den k).1 / (scale num den k).2 : ℚ) = num / den * 2 ^ k := by
  unfold scale
  split
  · rename_i hk
    lift k to ℕ using hk
    refine ⟨hden, ?_⟩
    simp only [Int.toNat_natCast, Nat.shiftLeft_eq, zpow_natCast]
    push_cast
    ring
  · rename_i hk
    obtain ⟨j, rfl⟩ : ∃ j : ℕ, k = -j := ⟨(-k).toNat, by omega⟩
    refine ⟨by simpa [Nat.shiftLeft_eq] using hden, ?_⟩
    simp only [neg_neg, Int.toNat_natCast, Nat.shiftLeft_eq, zpow_neg, zpow_natCast]
    push_cast
    rw [div_mul_eq_div_div, div_eq_mul_inv]

/-- A whole number is near a quotient: it differs by less than half, or by half and is even. -/
def IsNear (m : Nat) (t : ℚ) : Prop :=
  |m - t| < 1 / 2 ∨ |m - t| = 1 / 2 ∧ Even m

/-- A near number differs by no more than half. -/
theorem IsNear.le_half {m : Nat} {t : ℚ} (h : IsNear m t) : |m - t| ≤ 1 / 2 :=
  h.elim le_of_lt fun hhalf ↦ hhalf.1.le

/-- Division with rounding gives a near number. -/
theorem isNear_divNearestEven (num : Nat) (hden : 0 < den) :
    IsNear (divNearestEven num den) (num / den) := by
  have hpos : (0 : ℚ) < den := by exact_mod_cast hden
  obtain ⟨rest, hrest⟩ : ∃ rest : ℚ, rest = (num % den : ℕ) / den := ⟨_, rfl⟩
  have hquotient : (num / den : ℚ) = (num / den : ℕ) + rest := by
    rw [hrest, div_eq_iff hpos.ne', add_mul, div_mul_cancel₀ _ hpos.ne']
    exact_mod_cast (Nat.div_add_mod' num den).symm
  have hmore : 1 / 2 < rest ↔ den < 2 * (num % den) := by
    rw [hrest, div_lt_div_iff₀ two_pos hpos, one_mul, mul_comm]
    exact_mod_cast Iff.rfl
  have htie : rest = 1 / 2 ↔ den = 2 * (num % den) := by
    rw [hrest, div_eq_div_iff hpos.ne' two_ne_zero, one_mul, mul_comm, eq_comm]
    exact_mod_cast Iff.rfl
  have hzero : 0 ≤ rest := by
    rw [hrest]
    positivity
  have hone : rest < 1 := by
    rw [hrest, div_lt_one hpos]
    exact_mod_cast Nat.mod_lt num hden
  unfold divNearestEven IsNear
  simp only [Bool.or_eq_true, decide_eq_true_eq, Bool.and_eq_true, beq_iff_eq]
  split
  · rename_i hup
    have hdist : |((num / den + 1 : ℕ) : ℚ) - num / den| = 1 - rest := by
      rw [hquotient, Nat.cast_add_one, add_sub_add_left_eq_sub, abs_of_pos (by linarith)]
    rw [hdist]
    rcases hup with hlarge | ⟨heq, hodd⟩
    · exact .inl (by linarith [hmore.mpr hlarge])
    · exact .inr ⟨by linarith [htie.mpr heq], Nat.even_iff.mpr (by omega)⟩
  · rename_i hdown
    have hdist : |((num / den : ℕ) : ℚ) - num / den| = rest := by
      rw [hquotient, sub_add_cancel_left, abs_neg, abs_of_nonneg hzero]
    rw [hdist]
    rcases lt_trichotomy rest (1 / 2) with hsmall | heq | hlarge
    · exact .inl hsmall
    · exact .inr ⟨heq, Nat.even_iff.mpr (by have := htie.mp heq; omega)⟩
    · exact absurd (.inl (hmore.mp hlarge)) hdown

/-- A number lies between powers of two with its logarithm. -/
theorem two_pow_log2_le {n : Nat} (hn : 0 < n) :
    (2 : ℚ) ^ (n.log2 : ℤ) ≤ n ∧ (n : ℚ) < 2 ^ ((n.log2 : ℤ) + 1) := by
  constructor
  · exact_mod_cast Nat.log2_self_le hn.ne'
  · exact_mod_cast Nat.lt_log2_self

/-- A quotient lies between powers of two with the difference of the logarithms. -/
theorem div_between (hnum : 0 < num) (hden : 0 < den) :
    (2 : ℚ) ^ ((num.log2 : ℤ) - den.log2 - 1) ≤ num / den ∧
      (num / den : ℚ) < 2 ^ ((num.log2 : ℤ) - den.log2 + 1) := by
  have hpos : (0 : ℚ) < den := by exact_mod_cast hden
  obtain ⟨hlow, hhigh⟩ := two_pow_log2_le hnum
  obtain ⟨hlow', hhigh'⟩ := two_pow_log2_le hden
  constructor
  · rw [le_div_iff₀ hpos]
    calc (2 : ℚ) ^ ((num.log2 : ℤ) - den.log2 - 1) * den
        ≤ 2 ^ ((num.log2 : ℤ) - den.log2 - 1) * 2 ^ ((den.log2 : ℤ) + 1) := by gcongr
      _ = 2 ^ (num.log2 : ℤ) := by
          rw [← zpow_add₀ two_ne_zero]
          congr 1
          omega
      _ ≤ num := hlow
  · rw [div_lt_iff₀ hpos]
    calc (num : ℚ) < 2 ^ ((num.log2 : ℤ) + 1) := hhigh
      _ = 2 ^ ((num.log2 : ℤ) - den.log2 + 1) * 2 ^ (den.log2 : ℤ) := by
          rw [← zpow_add₀ two_ne_zero]
          congr 1
          omega
      _ ≤ 2 ^ ((num.log2 : ℤ) - den.log2 + 1) * den := by gcongr

/-- `IsLastBit q exponent` says that an exact number has no more than 53 bits if its last one is at
an exponent, and that it has fewer only if that is the least exponent there is. -/
structure IsLastBit (q : ℚ) (exponent : Int) : Prop where
  lt : q < 2 ^ 53 * 2 ^ exponent
  le_exponent : -1074 ≤ exponent
  full : exponent = -1074 ∨ 2 ^ 52 * 2 ^ exponent ≤ q

/-- The last bit is where `lastBit` has it. -/
theorem isLastBit_lastBit (hnum : 0 < num) (hden : 0 < den) :
    IsLastBit (num / den) (lastBit num den) := by
  obtain ⟨hlow, hhigh⟩ := div_between hnum hden
  obtain ⟨guess, hguess⟩ : ∃ guess : ℤ, guess = max ((num.log2 : ℤ) - den.log2 - 53) (-1074) :=
    ⟨_, rfl⟩
  obtain ⟨hscaled, hvalue⟩ := scale_spec num hden (-guess)
  have hfits : (scale num den (-guess)).1 / (scale num den (-guess)).2 < Nat.pow 2 53 ↔
      (num / den : ℚ) < 2 ^ 53 * 2 ^ guess := by
    have hpos : (0 : ℚ) < (scale num den (-guess)).2 := by exact_mod_cast hscaled
    rw [zpow_neg, ← div_eq_mul_inv] at hvalue
    rw [Nat.div_lt_iff_lt_mul hscaled, ← div_lt_iff₀ (by positivity : (0 : ℚ) < 2 ^ guess),
      ← hvalue, div_lt_iff₀ hpos]
    exact_mod_cast Iff.rfl
  have hlast : lastBit num den =
      if (num / den : ℚ) < 2 ^ 53 * 2 ^ guess then guess else guess + 1 := by
    simp only [lastBit, ← hguess, hfits]
  have hone : (2 : ℚ) ^ (guess + 1) = 2 * 2 ^ guess := by rw [zpow_add_one₀ two_ne_zero, mul_comm]
  rw [hlast]
  split
  · rename_i hsmall
    refine ⟨hsmall, by omega, ?_⟩
    by_cases hleast : guess = -1074
    · exact .inl hleast
    · right
      calc (2 ^ 52 * 2 ^ guess : ℚ) = 2 ^ (52 + guess) := (zpow_add₀ two_ne_zero 52 guess).symm
        _ = 2 ^ ((num.log2 : ℤ) - den.log2 - 1) := by
            congr 1
            omega
        _ ≤ num / den := hlow
  · rename_i hlarge
    refine ⟨?_, by omega, .inr (by rw [hone]; linarith)⟩
    calc (num / den : ℚ) < 2 ^ ((num.log2 : ℤ) - den.log2 + 1) := hhigh
      _ ≤ 2 ^ (53 + (guess + 1)) := zpow_le_zpow_right₀ one_le_two (by omega)
      _ = 2 ^ 53 * 2 ^ (guess + 1) := zpow_add₀ two_ne_zero 53 (guess + 1)

end Scale

section Nearest

variable {q t : ℚ} {m m' : Nat} {e e' : Int}

/-- No whole number is nearer than a near one, and another one is as near only if it is even. -/
theorem IsNear.nearest (h : IsNear m t) (k : ℤ) :
    |m - t| < |k - t| ∨ |m - t| = |k - t| ∧ (m = k ∨ Even m) := by
  by_cases hk : (m : ℤ) = k
  · subst hk
    exact .inr ⟨rfl, .inl rfl⟩
  · have hone : (1 : ℚ) ≤ |(k : ℚ) - m| := by
      have hdist : 1 ≤ |k - m| := Int.one_le_abs (sub_ne_zero.mpr (Ne.symm hk))
      exact_mod_cast hdist
    have hsum : |(k : ℚ) - m| ≤ |k - t| + |m - t| := by
      rw [abs_sub_comm (m : ℚ)]
      exact abs_sub_le _ _ _
    rcases h with hlt | ⟨heq, heven⟩
    · exact .inl (by linarith)
    · rcases (by linarith : |(m : ℚ) - t| ≤ |k - t|).lt_or_eq with hlt | hdist
      · exact .inl hlt
      · exact .inr ⟨hdist, .inr heven⟩

/-- A number is a multiple of the last bit of an exact one, or there is a nearer multiple. -/
theorem IsLastBit.exists_multiple (h : IsLastBit q e) (hsize : IsSize m' e') (negative : Bool) :
    ∃ k : ℤ, rational negative m' e' = k * 2 ^ e ∨
      |k * 2 ^ e - q| < |rational negative m' e' - q| := by
  by_cases hle : e ≤ e'
  · obtain ⟨j, rfl⟩ : ∃ j : ℕ, e' = j + e := ⟨(e' - e).toNat, by omega⟩
    refine ⟨signed negative m' * 2 ^ j, .inl ?_⟩
    rw [rational, zpow_add₀ two_ne_zero, zpow_natCast]
    push_cast
    ring
  · -- A number with a smaller exponent is below every exact number that has 53 bits.
    have hfull : 2 ^ 52 * 2 ^ e ≤ q :=
      h.full.resolve_left (by have := hsize.le_exponent; omega)
    have hbelow : rational negative m' e' < 2 ^ 52 * 2 ^ e := by
      calc rational negative m' e' ≤ m' * 2 ^ e' := by
            have : (0 : ℚ) ≤ m' * 2 ^ e' := by positivity
            cases negative
            · rw [rational_false]
            · rw [rational_true]
              linarith
        _ < 2 ^ 53 * 2 ^ e' := by
            gcongr
            exact_mod_cast hsize.mantissa_lt
        _ = 2 ^ 52 * 2 ^ (e' + 1) := by rw [zpow_add_one₀ two_ne_zero]; ring
        _ ≤ 2 ^ 52 * 2 ^ e := by
            have : (2 : ℚ) ^ (e' + 1) ≤ 2 ^ e := zpow_le_zpow_right₀ one_le_two (by omega)
            gcongr
    refine ⟨2 ^ 52, .inr ?_⟩
    push_cast
    rw [abs_of_nonpos (by linarith), abs_of_nonpos (by linarith)]
    linarith

/-- No number is nearer than the one with a near mantissa, and another one is as near only if that
is even. -/
theorem IsLastBit.nearest (h : IsLastBit q e) (hnear : IsNear m (q / 2 ^ e))
    (hsize : IsSize m' e') (negative : Bool) :
    |m * 2 ^ e - q| < |rational negative m' e' - q| ∨
      |m * 2 ^ e - q| = |rational negative m' e' - q| ∧
        (m * 2 ^ e = rational negative m' e' ∨ Even m) := by
  have hpow : (0 : ℚ) < 2 ^ e := by positivity
  have hscale : ∀ k : ℚ, |k * 2 ^ e - q| = |k - q / 2 ^ e| * 2 ^ e := fun k ↦ by
    rw [← abs_of_pos hpow, ← abs_mul, abs_of_pos hpow, sub_mul, div_mul_cancel₀ _ hpow.ne']
  have hmultiple : ∀ k : ℤ, |m * 2 ^ e - q| < |k * 2 ^ e - q| ∨
      |m * 2 ^ e - q| = |k * 2 ^ e - q| ∧ ((m : ℚ) * 2 ^ e = k * 2 ^ e ∨ Even m) := fun k ↦ by
    rw [hscale, hscale, mul_lt_mul_iff_left₀ hpow, mul_left_inj' hpow.ne', mul_left_inj' hpow.ne']
    rcases hnear.nearest k with hlt | ⟨heq, hk | heven⟩
    · exact .inl hlt
    · exact .inr ⟨heq, .inl (by exact_mod_cast hk)⟩
    · exact .inr ⟨heq, .inr heven⟩
  obtain ⟨k, heq | hlt⟩ := h.exists_multiple hsize negative
  · rw [heq]
    exact hmultiple k
  · rcases hmultiple k with hless | ⟨hsame, -⟩
    · exact .inl (hless.trans hlt)
    · exact .inl (hsame ▸ hlt)

/-- With a sign on either one, too, no number is nearer. -/
theorem IsLastBit.nearest_signed (h : IsLastBit q e) (hnear : IsNear m (q / 2 ^ e))
    (negative : Bool) {y : Float} {r : ℚ} (hy : HasValue y r) :
    |rational negative m e - (if negative then -q else q)| <
        |r - (if negative then -q else q)| ∨
      |rational negative m e - (if negative then -q else q)| =
          |r - (if negative then -q else q)| ∧
        (rational negative m e = r ∨ Even m) := by
  obtain ⟨negative', m', e', hparts, rfl⟩ := hy.exists_parts
  have hsize := IsSize.of_parts hparts
  cases negative with
  | false =>
      rw [rational_false]
      exact h.nearest hnear hsize negative'
  | true =>
      -- Below zero, distances are those of the opposite numbers.
      have hself : |-((m : ℚ) * 2 ^ e) - -q| = |m * 2 ^ e - q| := by
        rw [neg_sub_neg, abs_sub_comm]
      have hopposite : |rational negative' m' e' - -q| = |rational (!negative') m' e' - q| := by
        rw [rational_not, ← abs_neg, neg_sub, neg_sub_comm]
      rw [if_pos rfl, rational_true, hself, hopposite]
      refine (h.nearest hnear hsize (!negative')).imp_right fun ⟨hsame, htie⟩ ↦
        ⟨hsame, htie.imp_left fun heq ↦ ?_⟩
      rw [heq, rational_not, neg_neg]

/-- What fits has not gone over. -/
theorem IsLastBit.lt_overflow (h : IsLastBit q e) (hnear : IsNear m (q / 2 ^ e))
    (hfits : e < 971 ∨ e = 971 ∧ m < 2 ^ 53) : q < overflow := by
  rcases hfits with hlt | ⟨rfl, hm⟩
  · have hstep : (2 : ℚ) ^ (971 : ℤ) = 2 ^ (970 : ℤ) * 2 := zpow_add_one₀ two_ne_zero 970
    have hpow : (0 : ℚ) < 2 ^ (970 : ℤ) := by positivity
    have hexponent : (2 : ℚ) ^ e ≤ 2 ^ (970 : ℤ) := zpow_le_zpow_right₀ one_le_two (by omega)
    calc q < 2 ^ 53 * 2 ^ e := h.lt
      _ ≤ 2 ^ 53 * 2 ^ (970 : ℤ) := by gcongr
      _ < overflow := by
          rw [overflow, hstep]
          generalize (2 : ℚ) ^ (970 : ℤ) = p at hpow
          linarith
  · have hmost : (m : ℚ) ≤ 2 ^ 53 - 1 := by
      have hle : (m + 1 : ℚ) ≤ (2 ^ 53 : ℕ) := by exact_mod_cast hm
      push_cast at hle
      linarith
    rw [overflow, ← div_lt_iff₀ (by positivity)]
    rcases hnear with hdist | ⟨hdist, heven⟩
    · linarith [(abs_lt.mp hdist).1]
    · -- The largest mantissa is odd, so a tie does not go there.
      have hless : (m : ℚ) ≤ 2 ^ 53 - 2 := by
        obtain ⟨j, rfl⟩ := heven
        have hle : ((j + j + 2 : ℕ) : ℚ) ≤ (2 ^ 53 : ℕ) := by
          exact_mod_cast (by omega : j + j + 2 ≤ 2 ^ 53)
        push_cast at hle ⊢
        linarith
      linarith [(abs_le.mp hdist.le).1]

/-- What does not fit has gone over. -/
theorem IsLastBit.overflow_le (h : IsLastBit q e) (hnear : IsNear m (q / 2 ^ e))
    (hlarge : 971 < e ∨ e = 971 ∧ m = 2 ^ 53) : overflow ≤ q := by
  rcases hlarge with hlt | ⟨rfl, rfl⟩
  · have hstep : (2 : ℚ) ^ (972 : ℤ) = 2 ^ (971 : ℤ) * 2 := zpow_add_one₀ two_ne_zero 971
    have hpow : (0 : ℚ) < 2 ^ (971 : ℤ) := by positivity
    have hexponent : (2 : ℚ) ^ (972 : ℤ) ≤ 2 ^ e := zpow_le_zpow_right₀ one_le_two (by omega)
    calc overflow ≤ 2 ^ 52 * 2 ^ (972 : ℤ) := by
          rw [overflow, hstep]
          generalize (2 : ℚ) ^ (971 : ℤ) = p at hpow
          linarith
      _ ≤ 2 ^ 52 * 2 ^ e := by gcongr
      _ ≤ q := h.full.resolve_left (by omega)
  · rw [overflow, ← le_div_iff₀ (by positivity)]
    have hdist := hnear.le_half
    rw [Nat.cast_pow, Nat.cast_ofNat] at hdist
    linarith [(abs_le.mp hdist).2]

end Nearest

/-- The number with a sign, a mantissa, and the exponent of its last bit, which may have one bit
more than there are or go over. -/
def ofMantissa (negative : Bool) (mantissa : Nat) (exponent : Int) : Float :=
  let magnitude :=
    if mantissa < 2 ^ 52 then mantissa
    else (exponent + 1075).toNat * 2 ^ 52 + (mantissa - 2 ^ 52)
  withSign negative (min magnitude (2047 * 2 ^ 52))

/-- A quotient is rounded to a mantissa of its last bit. -/
theorem ofRatio_eq_ofMantissa (negative : Bool) {num : Nat} (hnum : 0 < num) (den : Nat) :
    ofRatio negative num den =
      ofMantissa negative
        (divNearestEven (scale num den (-lastBit num den)).1 (scale num den (-lastBit num den)).2)
        (lastBit num den) := by
  unfold ofRatio
  rw [if_neg hnum.ne']
  rfl

section Mantissa

variable {q : ℚ} {m : Nat} {e : Int}

/-- A mantissa that is too large is that of an infinite number. -/
theorem parts_ofMantissa_of_large (negative : Bool) (hfull : 2 ^ 52 ≤ m)
    (hlarge : 971 < e ∨ e = 971 ∧ m = 2 ^ 53) :
    parts (ofMantissa negative m e) = .infinite negative := by
  have hmin : min ((e + 1075).toNat * 2 ^ 52 + (m - 2 ^ 52)) (2047 * 2 ^ 52) = 2047 * 2 ^ 52 := by
    omega
  have hnumber : ofMantissa negative m e = withSign negative (2047 * 2 ^ 52) := by
    rw [← hmin, ofMantissa, if_neg (Nat.not_lt.mpr hfull)]
  rw [hnumber, parts_withSign_infinite]

/-- Another mantissa is kept, or half of it with the next exponent if it has one bit more. -/
theorem parts_ofMantissa_of_fits (negative : Bool) (hm : m ≤ 2 ^ 53) (he : -1074 ≤ e)
    (hfull : e = -1074 ∨ 2 ^ 52 ≤ m) (hfits : e < 971 ∨ e = 971 ∧ m < 2 ^ 53) :
    parts (ofMantissa negative m e) =
      if m = 2 ^ 53 then .finite negative (2 ^ 52) (e + 1) else .finite negative m e := by
  by_cases hsmall : m < 2 ^ 52
  · obtain rfl := hfull.resolve_right hsmall.not_ge
    have hnumber : ofMantissa negative m (-1074) = withSign negative m := by
      rw [ofMantissa, if_pos hsmall]
      exact congrArg _ (Nat.min_eq_left (by omega))
    rw [hnumber, parts_withSign negative (by omega), if_neg (by omega), if_pos hsmall,
      if_neg (by omega)]
  · have hmin : min ((e + 1075).toNat * 2 ^ 52 + (m - 2 ^ 52)) (2047 * 2 ^ 52) =
        (e + 1075).toNat * 2 ^ 52 + (m - 2 ^ 52) := by
      omega
    have hnumber : ofMantissa negative m e =
        withSign negative ((e + 1075).toNat * 2 ^ 52 + (m - 2 ^ 52)) := by
      rw [← hmin, ofMantissa, if_neg hsmall]
    rw [hnumber, parts_withSign negative (by omega), if_neg (by omega), if_neg (by omega)]
    split
    · simp only [Parts.finite.injEq, true_and]
      omega
    · simp only [Parts.finite.injEq, true_and]
      omega

/-- A mantissa that is near a quotient has no more bits than there are, or one more. -/
theorem IsLastBit.mantissa_le (h : IsLastBit q e) (hnear : IsNear m (q / 2 ^ e)) : m ≤ 2 ^ 53 := by
  have hdist := hnear.le_half
  have hlt : q / 2 ^ e < 2 ^ 53 := (div_lt_iff₀ (by positivity)).mpr h.lt
  have hbound : (m : ℚ) < (2 ^ 53 + 1 : ℕ) := by
    push_cast
    linarith [(abs_le.mp hdist).2]
  exact Nat.lt_succ_iff.mp (by exact_mod_cast hbound)

/-- A mantissa that is near a quotient has all bits, unless the last one is the least there is. -/
theorem IsLastBit.le_mantissa (h : IsLastBit q e) (hnear : IsNear m (q / 2 ^ e)) :
    e = -1074 ∨ 2 ^ 52 ≤ m := by
  refine h.full.imp_right fun hq ↦ ?_
  have hdist := hnear.le_half
  have hle : 2 ^ 52 ≤ q / 2 ^ e := (le_div_iff₀ (by positivity)).mpr hq
  have hbound : ((2 ^ 52 : ℕ) : ℚ) < (m + 1 : ℕ) := by
    push_cast
    linarith [(abs_le.mp hdist).1]
  exact Nat.lt_succ_iff.mp (by exact_mod_cast hbound)

/-- A finite number that is the nearest one has parts that say so. -/
theorem isRounding_of_finite {x : Float} {negative : Bool} {q : ℚ}
    (hx : parts x = .finite negative m e) (hq : |q| < overflow)
    (hnearest : ∀ y r, HasValue y r →
      |rational negative m e - q| < |r - q| ∨
        |rational negative m e - q| = |r - q| ∧ (rational negative m e = r ∨ Even m)) :
    IsRounding q x := by
  rw [IsRounding, hx]
  exact ⟨hq, hnearest⟩

/-- A mantissa that is near a quotient is that of a number that is finite unless it goes over. -/
theorem IsLastBit.exists_parts_ofMantissa (h : IsLastBit q e) (hnear : IsNear m (q / 2 ^ e))
    (hfits : e < 971 ∨ e = 971 ∧ m < 2 ^ 53) (negative : Bool) :
    ∃ m' e', parts (ofMantissa negative m e) = .finite negative m' e' ∧
      rational negative m' e' = rational negative m e ∧ (Even m → Even m') := by
  rw [parts_ofMantissa_of_fits negative (h.mantissa_le hnear) h.le_exponent (h.le_mantissa hnear)
    hfits]
  split
  · subst m
    refine ⟨_, _, rfl, ?_, fun _ ↦ by decide⟩
    have hstep : ((2 ^ 52 : ℕ) * 2 ^ (e + 1) : ℚ) = (2 ^ 53 : ℕ) * 2 ^ e := by
      rw [zpow_add_one₀ two_ne_zero]
      push_cast
      ring
    rw [rational, rational, signed_mul, signed_mul, hstep]
  · exact ⟨_, _, rfl, rfl, id⟩

/-- A mantissa that is near a quotient is that of the nearest number. -/
theorem IsLastBit.isRounding (h : IsLastBit q e) (hnear : IsNear m (q / 2 ^ e)) (hq : 0 ≤ q)
    (negative : Bool) : IsRounding (if negative then -q else q) (ofMantissa negative m e) := by
  by_cases hfits : e < 971 ∨ e = 971 ∧ m < 2 ^ 53
  · obtain ⟨m', e', hparts, hvalue, heven⟩ := h.exists_parts_ofMantissa hnear hfits negative
    have habs : |if negative then -q else q| = q := by
      cases negative with
      | false => exact abs_of_nonneg hq
      | true => exact (abs_neg q).trans (abs_of_nonneg hq)
    have hsize := h.lt_overflow hnear hfits
    refine isRounding_of_finite hparts (by rwa [habs]) fun y r hy ↦ ?_
    rw [hvalue]
    exact (h.nearest_signed hnear negative hy).imp_right
      fun ⟨hsame, htie⟩ ↦ ⟨hsame, htie.imp_right heven⟩
  · have hlarge : 971 < e ∨ e = 971 ∧ m = 2 ^ 53 := by
      have hm := h.mantissa_le hnear
      omega
    have hover := h.overflow_le hnear hlarge
    rw [IsRounding, parts_ofMantissa_of_large negative
      ((h.le_mantissa hnear).resolve_left (by omega)) hlarge]
    cases negative with
    | false => exact hover
    | true => exact neg_le_neg hover

end Mantissa

section

variable {x : Float} {q : ℚ}

/-- A finite number is smaller than what is infinite. -/
theorem HasValue.abs_lt_overflow (h : HasValue x q) : |q| < overflow := by
  obtain ⟨negative, m, e, hx, rfl⟩ := h.exists_parts
  have hsize := IsSize.of_parts hx
  have hmost : (m : ℚ) ≤ 2 ^ 53 - 1 := by
    have hle : (m + 1 : ℚ) ≤ (2 ^ 53 : ℕ) := by exact_mod_cast hsize.mantissa_lt
    push_cast at hle
    linarith
  have hexponent : (2 : ℚ) ^ e ≤ 2 ^ (971 : ℤ) :=
    zpow_le_zpow_right₀ one_le_two hsize.exponent_le
  rw [abs_rational, overflow]
  calc (m * 2 ^ e : ℚ) ≤ (2 ^ 53 - 1) * 2 ^ e := by gcongr
    _ < (2 ^ 53 - 1 / 2) * 2 ^ e := by
        gcongr
        norm_num
    _ ≤ (2 ^ 53 - 1 / 2) * 2 ^ (971 : ℤ) :=
        mul_le_mul_of_nonneg_left hexponent (by norm_num)

/-- A number is the nearest one to itself. -/
theorem HasValue.isRounding (h : HasValue x q) : IsRounding q x := by
  obtain ⟨negative, m, e, hx, rfl⟩ := h.exists_parts
  refine isRounding_of_finite hx h.abs_lt_overflow fun y r hy ↦ ?_
  rw [sub_self, abs_zero, abs_pos, sub_ne_zero]
  by_cases hr : r = rational negative m e
  · exact .inr ⟨by rw [hr, sub_self, abs_zero], .inl hr.symm⟩
  · exact .inl hr

end

/-- Zero with a sign is zero. -/
theorem hasValue_withSign_zero (negative : Bool) : HasValue (withSign negative 0) 0 := by
  rw [HasValue, value?, parts_withSign_zero, Parts.value?, rational_zero]

/-- Quotients are rounded to the nearest number. -/
theorem isRounding_ofRatio (negative : Bool) (num : Nat) {den : Nat} (hden : 0 < den) :
    IsRounding (signed negative num / den) (ofRatio negative num den) := by
  rcases Nat.eq_zero_or_pos num with rfl | hnum
  · have hzero : ((signed negative 0 : ℤ) / den : ℚ) = 0 := by
      cases negative <;> simp [signed]
    rw [hzero, ofRatio, if_pos rfl]
    exact (hasValue_withSign_zero negative).isRounding
  · have hsigned : ((signed negative num : ℤ) / den : ℚ) =
        if negative then -(num / den : ℚ) else num / den := by
      simp only [div_eq_mul_inv, signed_mul]
    obtain ⟨hscaled, hvalue⟩ := scale_spec num hden (-lastBit num den)
    have hnear := isNear_divNearestEven (scale num den (-lastBit num den)).1 hscaled
    rw [hvalue, zpow_neg, ← div_eq_mul_inv] at hnear
    rw [hsigned, ofRatio_eq_ofMantissa negative hnum]
    exact (isLastBit_lastBit hnum hden).isRounding hnear (by positivity) negative

end Storefront.Binary64
