import Storefront.Proofs.Money.NanoTotal
import Storefront.Proofs.Order.RoundTrip
import Storefront.Proofs.Text.Pieces

/-!
# Amounts as they are shown

The text of an amount is the decimal of its exact value: a minus sign below zero, the whole units
without superfluous zeros, nine decimals, and the currency. `IsRendering` says so without computing
the text, and `readAmount?` reads any decimal with a currency. The main theorem,
`display_is_exact`, says that one text is the rendering of an amount, that it is read as the amount,
and so that two amounts are shown alike only if they are equal.
-/

namespace Storefront

namespace Text

/-- A whole number and so many decimals. -/
def fraction (n d width : Nat) : ℚ :=
  (n : ℚ) + (d : ℚ) / 10 ^ width

/-- The value of a decimal without a sign: digits, a point, and more digits. -/
def readFraction? (cs : List Char) : Option ℚ := do
  let (whole, decimals) ← cutAt? '.' cs
  let n ← decimal? whole
  let d ← decimal? decimals
  some (fraction n d decimals.length)

/-- The value of a decimal that may have a minus sign. -/
def readDecimal? : List Char → Option ℚ
  | '-' :: cs => (readFraction? cs).map Neg.neg
  | cs => readFraction? cs

/-- Digits with a point among them are read as a whole number and tenths, hundredths, and so on. -/
theorem readFraction?_of_isNumeral {whole decimals : List Char} {n d : Nat}
    (hwhole : IsNumeral whole n) (hdecimals : IsNumeral decimals d) :
    readFraction? (whole ++ '.' :: decimals) = some (fraction n d decimals.length) := by
  rw [readFraction?, cutAt?_append (hwhole.not_mem rfl)]
  simp only [bind, Option.bind, decimal?_eq_some_iff.mpr hwhole,
    decimal?_eq_some_iff.mpr hdecimals]

/-- A minus sign before a decimal changes the sign of its value. -/
theorem readDecimal?_of_isNumeral {whole decimals : List Char} {n d : Nat} (negative : Bool)
    (hwhole : IsNumeral whole n) (hdecimals : IsNumeral decimals d) :
    readDecimal? ((if negative then ['-'] else []) ++ (whole ++ '.' :: decimals)) =
      some (if negative then -fraction n d decimals.length else fraction n d decimals.length) := by
  have hread := readFraction?_of_isNumeral hwhole hdecimals
  cases negative with
  | true =>
      change (readFraction? (whole ++ '.' :: decimals)).map Neg.neg = _
      rw [hread]
      rfl
  | false =>
      cases whole with
      | nil => exact absurd rfl hwhole.1
      | cons c cs =>
          -- A digit is no minus sign.
          have hsign : c ≠ '-' := by
            rintro rfl
            exact hwhole.not_mem rfl List.mem_cons_self
          simpa [readDecimal?, hsign] using hread

end Text

namespace Money

/-- `m.IsRendering s` says that a text is a minus sign if the amount is below zero, the whole units
without superfluous zeros, a point, nine digits for the nanos, a blank, and the currency. -/
def IsRendering (m : Money) (s : String) : Prop :=
  ∃ whole decimals : List Char,
    s.toList = (if m.total < 0 then ['-'] else []) ++ (whole ++ '.' :: decimals) ++
      ' ' :: m.currency.text.toList ∧
    Text.IsNumeral whole m.units.natAbs ∧ (whole.head? = some '0' → whole = ['0']) ∧
    Text.IsNumeral decimals m.nanos.natAbs ∧ decimals.length = 9

/-- The value of a decimal in units of a currency, and the currency after a blank. -/
def readAmount? (s : String) : Option (ℚ × CurrencyCode) := do
  let (number, code) ← Text.cutAt? ' ' s.toList
  let value ← Text.readDecimal? number
  let currency ← CurrencyCode.parse? (.ofList code)
  some (value, currency)

/-- Nine digits are enough for the nanos. -/
theorem natAbs_nanos_lt (m : Money) : m.nanos.natAbs < 10 ^ 9 := by
  have h := m.wellFormed
  unfold WellFormed nanosPerUnit at h
  unfold nanos
  omega

/-- Units and nanos are sizes with the sign of the total. -/
theorem total_eq_sign (m : Money) :
    m.total = if m.total < 0 then -((m.units.natAbs : Int) * nanosPerUnit + m.nanos.natAbs)
      else (m.units.natAbs : Int) * nanosPerUnit + m.nanos.natAbs := by
  have h := m.wellFormed
  change WellFormed m.units m.nanos at h
  unfold WellFormed at h
  unfold total nanosPerUnit at *
  split <;> omega

/-- The characters of a text that shows an amount. -/
theorem toList_display (m : Money) :
    m.display.toList = (if m.total < 0 then ['-'] else []) ++
      (Nat.toDigits 10 m.units.natAbs ++
        '.' :: Text.padZeros 9 (Nat.toDigits 10 m.nanos.natAbs)) ++
      ' ' :: m.currency.text.toList := by
  have hsign : (if m.isNegative then "-" else "").toList =
      if m.total < 0 then ['-'] else [] := by
    by_cases h : m.total < 0
    · rw [m.isNegative_iff.mpr h, if_pos rfl, if_pos h]
      rfl
    · rw [if_neg h, if_neg (h ∘ m.isNegative_iff.mp)]
      rfl
  simp [display, hsign, Text.decimal, Text.decimalPadded]

/-- The text that is shown is the only rendering. -/
theorem isRendering_iff {m : Money} {s : String} : m.IsRendering s ↔ s = m.display := by
  rw [← String.toList_inj, toList_display]
  constructor
  · rintro ⟨whole, decimals, htext, hwhole, hplain, hdecimals, hlength⟩
    rw [htext, Text.isNumeral_plain_iff.mp ⟨hwhole, hplain⟩,
      (Text.isNumeral_width_iff (by decide) m.natAbs_nanos_lt).mp ⟨hdecimals, hlength⟩]
  · intro htext
    obtain ⟨hwhole, hplain⟩ := Text.isNumeral_plain_iff.mpr (rfl : _ = Nat.toDigits 10 _)
    obtain ⟨hdecimals, hlength⟩ :=
      (Text.isNumeral_width_iff (by decide) m.natAbs_nanos_lt).mpr rfl
    exact ⟨_, _, htext, hwhole, hplain, hdecimals, hlength⟩

/-- A rendering is read as the exact value of the amount. -/
theorem readAmount?_of_isRendering {m : Money} {s : String} (h : m.IsRendering s) :
    readAmount? s = some ((m.total : ℚ) / nanosPerUnit, m.currency) := by
  obtain ⟨whole, decimals, htext, hwhole, -, hdecimals, hlength⟩ := h
  have hblank : ' ' ∉ (if m.total < 0 then ['-'] else []) ++ (whole ++ '.' :: decimals) := by
    simp only [List.mem_append, List.mem_cons, not_or]
    refine ⟨?_, hwhole.not_mem rfl, by decide, hdecimals.not_mem rfl⟩
    split <;> decide
  have hread := Text.readDecimal?_of_isNumeral (decide (m.total < 0)) hwhole hdecimals
  simp only [decide_eq_true_eq] at hread
  rw [readAmount?, htext, Text.cutAt?_append hblank]
  simp only [bind, Option.bind, hread, String.ofList_toList, CurrencyCode.parse?_text]
  -- Units and nanos over a billion are the total over a billion.
  have hvalue : (if m.total < 0 then -Text.fraction m.units.natAbs m.nanos.natAbs 9
      else Text.fraction m.units.natAbs m.nanos.natAbs 9) = (m.total : ℚ) / nanosPerUnit := by
    conv_rhs => rw [total_eq_sign]
    generalize m.units.natAbs = units, m.nanos.natAbs = nanos
    unfold Text.fraction nanosPerUnit
    split <;> push_cast <;> ring
  rw [hlength, hvalue]

/-- The text that shows an amount is its only rendering, with a minus sign exactly below zero, the
units without superfluous zeros, nine decimals, and the currency; it is read as the exact nano total
and the currency; and it shows no other amount. -/
theorem display_is_exact (m : Money) :
    (∀ s, m.IsRendering s ↔ s = m.display) ∧
    readAmount? m.display = some ((m.total : ℚ) / nanosPerUnit, m.currency) ∧
    ∀ other : Money, other.display = m.display ↔ other = m := by
  have hread : ∀ m : Money,
      readAmount? m.display = some ((m.total : ℚ) / nanosPerUnit, m.currency) := fun m ↦
    readAmount?_of_isRendering (isRendering_iff.mpr rfl)
  refine ⟨fun s ↦ isRendering_iff, hread m, fun other ↦ ⟨fun h ↦ ?_, congrArg display⟩⟩
  have heq := (hread other).symm.trans ((congrArg readAmount? h).trans (hread m))
  obtain ⟨hvalue, hcurrency⟩ := Prod.mk.inj (Option.some_inj.mp heq)
  have hpositive : ((nanosPerUnit : Int) : ℚ) ≠ 0 := by norm_num [nanosPerUnit]
  exact eq_of_total hcurrency (Int.cast_injective ((div_left_inj' hpositive).mp hvalue))

/-- The least amount, and one between minus one unit and zero. -/
example :
    ((ofWords .usd Int64.minValue (-999999999)).toOption.map display,
      (ofWords .usd 0 (-50000000)).toOption.map display) =
    (some "-9223372036854775808.999999999 USD", some "-0.050000000 USD") := by
  decide +kernel

end Money

end Storefront
