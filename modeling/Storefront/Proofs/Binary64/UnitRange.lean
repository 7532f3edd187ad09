import Storefront.Proofs.Binary64.Rounding

/-!
# Numbers between zero and one

`Binary64.clampUnit` moves a number into the range from zero to one and leaves a not-a-number as it
is. As zero and one are numbers, it makes no difference whether an exact number is moved before it
is rounded or after: `IsRounding.clamped`.
-/

namespace Storefront.Binary64

section

variable {x y : Float} {q r : ℚ} {a : WithBotTop ℚ}

/-- The nearest number is at an end of the line if the exact one has gone over, and otherwise it is
a finite number. -/
theorem IsRounding.value?_cases (h : IsRounding q x) :
    value? x = some ⊥ ∧ q ≤ -overflow ∨ value? x = some ⊤ ∧ overflow ≤ q ∨
      ∃ p, HasValue x p ∧ ∀ y r, HasValue y r → |p - q| ≤ |r - q| := by
  unfold IsRounding at h
  unfold HasValue value?
  cases hx : parts x with
  | nan =>
      rw [hx] at h
      exact h.elim
  | infinite negative =>
      rw [hx] at h
      cases negative with
      | true => exact .inl ⟨rfl, h⟩
      | false => exact .inr (.inl ⟨rfl, h⟩)
  | finite negative mantissa exponent =>
      rw [hx] at h
      exact .inr (.inr ⟨_, rfl, fun y r hy ↦ (h.2 y r hy).elim le_of_lt fun hsame ↦ hsame.1.le⟩)

/-- The nearest number is a number. -/
theorem IsRounding.exists_value? (h : IsRounding q x) : ∃ a, value? x = some a := by
  rcases h.value?_cases with ⟨hx, -⟩ | ⟨hx, -⟩ | ⟨p, hx, -⟩ <;> exact ⟨_, hx⟩

/-- The nearest number to what is not above a number is not above it either. -/
theorem IsRounding.le_of_le (h : IsRounding q x) (hx : value? x = some a) (hy : HasValue y r)
    (hle : q ≤ r) : a ≤ .coe r := by
  rcases h.value?_cases with ⟨hx', -⟩ | ⟨-, hover⟩ | ⟨p, hx', hnearest⟩
  · obtain rfl := Option.some_inj.mp (hx.symm.trans hx')
    exact bot_le
  · exact absurd ((le_abs_self r).trans_lt hy.abs_lt_overflow) (hover.trans hle).not_gt
  · obtain rfl := Option.some_inj.mp (hx.symm.trans hx')
    have hdist := hnearest y r hy
    rw [abs_of_nonneg (sub_nonneg.mpr hle)] at hdist
    exact WithBotTop.coe_le_coe.mpr (sub_le_sub_iff_right q |>.mp ((le_abs_self _).trans hdist))

/-- The nearest number to what is not below a number is not below it either. -/
theorem IsRounding.ge_of_ge (h : IsRounding q x) (hx : value? x = some a) (hy : HasValue y r)
    (hle : r ≤ q) : .coe r ≤ a := by
  rcases h.value?_cases with ⟨-, hover⟩ | ⟨hx', -⟩ | ⟨p, hx', hnearest⟩
  · have hr : -overflow < r := (abs_lt.mp hy.abs_lt_overflow).1
    exact absurd (hle.trans hover) hr.not_ge
  · obtain rfl := Option.some_inj.mp (hx.symm.trans hx')
    exact le_top
  · obtain rfl := Option.some_inj.mp (hx.symm.trans hx')
    have hdist := hnearest y r hy
    rw [abs_sub_comm, abs_sub_comm r, abs_of_nonneg (sub_nonneg.mpr hle)] at hdist
    exact WithBotTop.coe_le_coe.mpr (sub_le_sub_iff_left q |>.mp ((le_abs_self _).trans hdist))

/-- What has no place is not moved between zero and one. -/
theorem clampUnit_of_value?_eq_none (hx : value? x = none) : clampUnit x = x := by
  unfold clampUnit
  simp only [not_lt_of_value?_eq_none hx, if_false]

/-- What is between zero and one stays in its place. -/
theorem clampUnit_of_between (hx : value? x = some a) (hzero : .coe 0 ≤ a) (hone : a ≤ .coe 1) :
    clampUnit x = x := by
  have hlow : ¬x < ofInt 0 := by
    rwa [lt_iff_value hx hasValue_ofInt_zero, not_lt]
  have hhigh : ¬ofInt 1 < x := by
    rwa [lt_iff_value hasValue_ofInt_one hx, not_lt]
  unfold clampUnit
  simp only [hlow, hhigh, if_false]

/-- Zero is below one on the line. -/
theorem coe_zero_lt_coe_one : (.coe 0 : WithBotTop ℚ) < .coe 1 :=
  WithBotTop.coe_lt_coe.mpr zero_lt_one

/-- What is not above zero is moved to zero. -/
theorem hasValue_clampUnit_of_le_zero (hx : value? x = some a) (h : a ≤ .coe 0) :
    HasValue (clampUnit x) 0 := by
  rcases h.lt_or_eq with hlt | rfl
  · have hlow : x < ofInt 0 := (lt_iff_value hx hasValue_ofInt_zero).mpr hlt
    have hhigh : ¬ofInt 1 < ofInt 0 := by
      rw [lt_iff_value hasValue_ofInt_one hasValue_ofInt_zero]
      exact coe_zero_lt_coe_one.not_gt
    unfold clampUnit
    simp only [hlow, hhigh, if_true, if_false]
    exact hasValue_ofInt_zero
  · rwa [clampUnit_of_between hx le_rfl coe_zero_lt_coe_one.le]

/-- What is not below one is moved to one. -/
theorem hasValue_clampUnit_of_one_le (hx : value? x = some a) (h : .coe 1 ≤ a) :
    HasValue (clampUnit x) 1 := by
  rcases h.lt_or_eq with hlt | rfl
  · have hlow : ¬x < ofInt 0 := by
      rw [lt_iff_value hx hasValue_ofInt_zero, not_lt]
      exact coe_zero_lt_coe_one.le.trans h
    have hhigh : ofInt 1 < x := (lt_iff_value hasValue_ofInt_one hx).mpr hlt
    unfold clampUnit
    simp only [hlow, hhigh, if_true, if_false]
    exact hasValue_ofInt_one
  · rwa [clampUnit_of_between hx coe_zero_lt_coe_one.le le_rfl]

/-- What has a place is moved between zero and one. -/
theorem exists_hasValue_clampUnit (hx : value? x = some a) :
    ∃ r, HasValue (clampUnit x) r ∧ 0 ≤ r ∧ r ≤ 1 := by
  rcases le_total a (.coe 0) with hzero | hzero
  · exact ⟨0, hasValue_clampUnit_of_le_zero hx hzero, le_rfl, zero_le_one⟩
  · rcases le_total (.coe 1) a with hone | hone
    · exact ⟨1, hasValue_clampUnit_of_one_le hx hone, zero_le_one, le_rfl⟩
    · rw [clampUnit_of_between hx hzero hone]
      induction a using WithBotTop.rec with
      | bot => exact absurd (le_bot_iff.mp hzero) (WithBotTop.coe_ne_bot 0)
      | top => exact absurd (top_le_iff.mp hone) (WithBotTop.coe_ne_top 1)
      | coe r => exact ⟨r, hx, WithBotTop.coe_le_coe.mp hzero, WithBotTop.coe_le_coe.mp hone⟩

/-- Moving into the range from zero to one and rounding can be done in either order. -/
theorem IsRounding.clamped (h : IsRounding q x) :
    IsRounding (max 0 (min q 1)) (clampUnit x) := by
  obtain ⟨a, hx⟩ := h.exists_value?
  rcases le_total q 0 with hzero | hzero
  · have hlow := hasValue_clampUnit_of_le_zero hx (h.le_of_le hx hasValue_ofInt_zero hzero)
    rw [max_eq_left (min_le_of_left_le hzero)]
    exact hlow.isRounding
  · rcases le_total 1 q with hone | hone
    · have hhigh := hasValue_clampUnit_of_one_le hx (h.ge_of_ge hx hasValue_ofInt_one hone)
      rw [min_eq_right hone, max_eq_right zero_le_one]
      exact hhigh.isRounding
    · -- The nearest number is in the range as well, and stays in its place.
      have hlow := h.ge_of_ge hx hasValue_ofInt_zero hzero
      have hhigh := h.le_of_le hx hasValue_ofInt_one hone
      rwa [min_eq_left hone, max_eq_right hzero, clampUnit_of_between hx hlow hhigh]

end

end Storefront.Binary64
