import Storefront.Proofs.Binary64.Layout

/-!
# The values of numbers

A number that is not a not-a-number has a place on the line of exact numbers with an end on either
side, `value?`. Comparisons are those of places, `lt_iff_value`, although they are made on mantissas
and exponents, one after the other: with the first bits in their places, a larger exponent is a
larger number.
-/

namespace Storefront.Binary64

open Float.Model Float.Model.UnpackedFloat

/-- `± mantissa · 2 ^ exponent`. -/
def rational (negative : Bool) (mantissa : Nat) (exponent : Int) : ℚ :=
  signed negative mantissa * 2 ^ exponent

/-- The place of a number on the line. -/
def Parts.value? : Parts → Option (WithBotTop ℚ)
  | .nan => none
  | .infinite negative => some (if negative then ⊥ else ⊤)
  | .finite negative mantissa exponent => some (rational negative mantissa exponent)

/-- The place of a number on the line. -/
def value? (x : Float) : Option (WithBotTop ℚ) :=
  (parts x).value?

/-- `HasValue x q` says that a number is an exact one. -/
def HasValue (x : Float) (q : ℚ) : Prop :=
  value? x = some (.coe q)

/-- A number has no place exactly if it is a not-a-number. -/
theorem value?_eq_none_iff (x : Float) : value? x = none ↔ x.isNaN = true := by
  rw [isNaN_iff, value?]
  cases parts x <;> simp [Parts.value?]

section

variable {m m' : Nat} {e e' : Int}

/-- A signed number times another one is the product with the sign. -/
theorem signed_mul (negative : Bool) (n : Nat) (q : ℚ) :
    (signed negative n : ℤ) * q = if negative then -(n * q) else n * q := by
  cases negative <;> simp [signed]

/-- A number without a minus sign. -/
@[simp] theorem rational_false (m : Nat) (e : Int) : rational false m e = m * 2 ^ e :=
  signed_mul false m (2 ^ e)

/-- A number with a minus sign. -/
@[simp] theorem rational_true (m : Nat) (e : Int) : rational true m e = -(m * 2 ^ e) :=
  signed_mul true m (2 ^ e)

/-- Zero has two signs. -/
@[simp] theorem rational_zero (negative : Bool) (e : Int) : rational negative 0 e = 0 := by
  cases negative <;> simp

/-- The other sign makes the opposite number. -/
theorem rational_not (negative : Bool) (m : Nat) (e : Int) :
    rational (!negative) m e = -rational negative m e := by
  cases negative <;> simp

/-- The size of a number. -/
theorem abs_rational (negative : Bool) (m : Nat) (e : Int) :
    |rational negative m e| = m * 2 ^ e := by
  have hpos : (0 : ℚ) ≤ m * 2 ^ e := by positivity
  cases negative with
  | false => rw [rational_false, abs_of_nonneg hpos]
  | true => rw [rational_true, abs_neg, abs_of_nonneg hpos]

/-- A number that is an exact one is finite. -/
theorem HasValue.exists_parts {x : Float} {q : ℚ} (h : HasValue x q) :
    ∃ negative mantissa exponent, parts x = .finite negative mantissa exponent ∧
      q = rational negative mantissa exponent := by
  unfold HasValue value? at h
  cases hx : parts x with
  | nan =>
      rw [hx] at h
      cases h
  | infinite negative =>
      rw [hx] at h
      cases negative <;> cases h
  | finite negative mantissa exponent =>
      rw [hx] at h
      exact ⟨negative, mantissa, exponent, rfl,
        (WithBotTop.coe_injective (Option.some_inj.mp h)).symm⟩

/-- The larger exponent is that of the larger number. -/
theorem IsSize.lt_of_exponent_lt (h : IsSize m e) (h' : IsSize m' e') (hlt : e < e') :
    (m * 2 ^ e : ℚ) < m' * 2 ^ e' := by
  have hfull : 2 ^ 52 ≤ m' := h'.full.resolve_left (by have := h.le_exponent; omega)
  calc (m * 2 ^ e : ℚ) < 2 ^ 53 * 2 ^ e := by
        gcongr
        exact_mod_cast h.mantissa_lt
    _ = 2 ^ 52 * 2 ^ (e + 1) := by rw [zpow_add_one₀ two_ne_zero]; ring
    _ ≤ m' * 2 ^ e' := by
        gcongr
        · exact_mod_cast hfull
        · norm_num
        · omega

/-- Sizes are compared by their exponents, and by their mantissas if those are equal. -/
theorem IsSize.lt_iff (h : IsSize m e) (h' : IsSize m' e') :
    (m * 2 ^ e : ℚ) < m' * 2 ^ e' ↔ e < e' ∨ e = e' ∧ m < m' := by
  rcases lt_trichotomy e e' with hlt | rfl | hgt
  · exact iff_of_true (h.lt_of_exponent_lt h' hlt) (.inl hlt)
  · have hpow : (0 : ℚ) < 2 ^ e := by positivity
    simp [mul_lt_mul_iff_left₀ hpow]
  · exact iff_of_false (h'.lt_of_exponent_lt h hgt).asymm (by omega)

/-- The comparison of sizes finds the smaller one. -/
theorem IsSize.compare_eq_lt_iff (h : IsSize m e) (h' : IsSize m' e') :
    (compare e e').then (compare m m') = .lt ↔ (m * 2 ^ e : ℚ) < m' * 2 ^ e' := by
  rw [h.lt_iff h', Ordering.then_eq_lt, compare_lt_iff_lt, compare_eq_iff_eq, compare_lt_iff_lt]

/-- The comparison of sizes finds the larger one. -/
theorem IsSize.compare_eq_gt_iff (h : IsSize m e) (h' : IsSize m' e') :
    (compare e e').then (compare m m') = .gt ↔ (m' * 2 ^ e' : ℚ) < m * 2 ^ e := by
  rw [h'.lt_iff h, Ordering.then_eq_gt, compare_gt_iff_gt, compare_eq_iff_eq, compare_gt_iff_gt,
    eq_comm]

/-- A larger number is not a smaller one. -/
theorem some_gt_ne_some_lt : some Ordering.gt ≠ some Ordering.lt := by
  decide

/-- An equal number is not a smaller one. -/
theorem some_eq_ne_some_lt : some Ordering.eq ≠ some Ordering.lt := by
  decide

/-- The comparison of finite numbers finds the smaller one. -/
theorem compare_finite_eq_lt_iff (h : IsSize m e) (h' : IsSize m' e') (negative negative' : Bool) :
    (Parts.finite negative m e).unpacked.compare (Parts.finite negative' m' e').unpacked =
      some .lt ↔ rational negative m e < rational negative' m' e' := by
  have hpos : ∀ {n : Nat} (k : Int), 0 < n → (0 : ℚ) < n * 2 ^ k := fun k hn ↦ by positivity
  rw [Parts.unpacked, Parts.unpacked]
  rcases Nat.eq_zero_or_pos m with rfl | hm <;> rcases Nat.eq_zero_or_pos m' with rfl | hm'
  · rw [dif_neg (lt_irrefl 0), dif_neg (lt_irrefl 0), rational_zero, rational_zero]
    exact iff_of_false some_eq_ne_some_lt (lt_irrefl 0)
  · have hsize := hpos e' hm'
    rw [dif_pos hm', dif_neg (lt_irrefl 0), rational_zero]
    cases negative' with
    | false => exact iff_of_true rfl (by rwa [rational_false])
    | true => exact iff_of_false some_gt_ne_some_lt (by rw [rational_true]; linarith)
  · have hsize := hpos e hm
    rw [dif_pos hm, dif_neg (lt_irrefl 0), rational_zero]
    cases negative with
    | false => exact iff_of_false some_gt_ne_some_lt (by rw [rational_false]; linarith)
    | true => exact iff_of_true rfl (by rw [rational_true]; linarith)
  · have hsize := hpos e hm
    have hsize' := hpos e' hm'
    rw [dif_pos hm, dif_pos hm']
    -- Numbers with different signs are told apart by them, and others by their sizes.
    cases negative <;> cases negative'
    · simp only [rational_false, ← h.compare_eq_lt_iff h']
      exact Option.some_inj
    · exact iff_of_false some_gt_ne_some_lt (by rw [rational_false, rational_true]; linarith)
    · exact iff_of_true rfl (by rw [rational_false, rational_true]; linarith)
    · simp only [rational_true, neg_lt_neg_iff, ← h.compare_eq_gt_iff h', ← Ordering.swap_eq_lt]
      exact Option.some_inj

end

section

variable {p : Parts} {b : WithBotTop ℚ}

/-- The comparison of an infinite number with another one finds the smaller one. -/
theorem compare_infinite_eq_lt_iff (hp : p.value? = some b) (negative : Bool) :
    (Parts.infinite negative).unpacked.compare p.unpacked = some .lt ↔
      (if negative then ⊥ else ⊤) < b := by
  cases p with
  | nan => cases hp
  | infinite negative' =>
      obtain rfl := Option.some_inj.mp hp
      cases negative <;> cases negative' <;> decide
  | finite negative' m e =>
      obtain rfl := Option.some_inj.mp hp
      rw [Parts.unpacked, Parts.unpacked]
      cases negative with
      | true =>
          refine iff_of_true ?_ (bot_lt_iff_ne_bot.mpr (WithBotTop.coe_ne_bot _))
          split <;> rfl
      | false =>
          refine iff_of_false ?_ not_top_lt
          split <;> exact some_gt_ne_some_lt

/-- The comparison of a finite number with an infinite one finds the smaller one. -/
theorem compare_finite_infinite_eq_lt_iff (negative : Bool) (m : Nat) (e : Int) (negative' : Bool) :
    (Parts.finite negative m e).unpacked.compare (Parts.infinite negative').unpacked = some .lt ↔
      (rational negative m e : WithBotTop ℚ) < if negative' then ⊥ else ⊤ := by
  rw [Parts.unpacked, Parts.unpacked]
  cases negative' with
  | true =>
      refine iff_of_false ?_ not_lt_bot
      split <;> exact some_gt_ne_some_lt
  | false =>
      refine iff_of_true ?_ (lt_top_iff_ne_top.mpr (WithBotTop.coe_ne_top _))
      split <;> rfl

end

section

variable {x y : Float} {a b : WithBotTop ℚ}

/-- Comparisons are those of places on the line. -/
theorem lt_iff_value (hx : value? x = some a) (hy : value? y = some b) : x < y ↔ a < b := by
  rw [lt_iff_compare]
  unfold value? at hx hy
  cases hpx : parts x with
  | nan =>
      rw [hpx] at hx
      cases hx
  | infinite negative =>
      obtain rfl := Option.some_inj.mp (hpx ▸ hx)
      exact compare_infinite_eq_lt_iff hy negative
  | finite negative m e =>
      obtain rfl := Option.some_inj.mp (hpx ▸ hx)
      cases hpy : parts y with
      | nan =>
          rw [hpy] at hy
          cases hy
      | infinite negative' =>
          obtain rfl := Option.some_inj.mp (hpy ▸ hy)
          exact compare_finite_infinite_eq_lt_iff negative m e negative'
      | finite negative' m' e' =>
          obtain rfl := Option.some_inj.mp (hpy ▸ hy)
          rw [compare_finite_eq_lt_iff (.of_parts hpx) (.of_parts hpy), WithBotTop.coe_lt_coe]

/-- A number that has no place is neither smaller than another one nor larger. -/
theorem not_lt_of_value?_eq_none (hx : value? x = none) (y : Float) : ¬x < y ∧ ¬y < x := by
  have hparts : parts x = .nan := (isNaN_iff x).mp ((value?_eq_none_iff x).mp hx)
  rw [lt_iff_compare, lt_iff_compare, hparts]
  exact ⟨nofun, by cases (parts y).unpacked <;> nofun⟩

/-- The number zero is zero. -/
theorem hasValue_ofInt_zero : HasValue (ofInt 0) 0 := by
  have hparts : parts (ofInt 0) = .finite false 0 (-1074) := rfl
  rw [HasValue, value?, hparts, Parts.value?, rational_zero]

/-- The number one is one. -/
theorem hasValue_ofInt_one : HasValue (ofInt 1) 1 := by
  have hparts : parts (ofInt 1) = .finite false (2 ^ 52) (-52) := rfl
  rw [HasValue, value?, hparts, Parts.value?, rational_false]
  norm_num

end

end Storefront.Binary64
