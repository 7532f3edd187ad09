import Mathlib.Tactic.IntervalCases
import Storefront.Text.Numeral

/-!
# Reading numerals back

A number that is written in some base and read in the same base is the same number, with any number
of zeros before it. `foldDigits_toDigits` is the fact about bare digits; the lemmas after it are
about the padded forms in which numbers are written. What is read as a decimal number is said apart
from the reader by `IsNumeral`, and a decimal numeral is the one that is written if it has no
superfluous zeros, `isNumeral_plain_iff`, or a given width, `isNumeral_width_iff`.
-/

namespace Storefront.Text

/-- A digit below ten is read as its value. -/
theorem digit?_digitChar {n : Nat} (h : n < 10) : digit? n.digitChar = some n := by
  interval_cases n <;> rfl

/-- A digit below sixteen is read as its value. -/
theorem hexDigit?_digitChar {n : Nat} (h : n < 16) : hexDigit? n.digitChar = some n := by
  interval_cases n <;> rfl

/-- Capital digits are read as well. -/
theorem hexDigit?_toUpper {n : Nat} (h : n < 16) : hexDigit? n.digitChar.toUpper = some n := by
  interval_cases n <;> rfl

section

variable {value? : Char → Option Nat} {base : Nat}

/-- Digits are read one after the other. -/
theorem foldDigits_append (acc : Nat) (first rest : List Char) :
    foldDigits value? base acc (first ++ rest) =
      (foldDigits value? base acc first).bind fun n ↦ foldDigits value? base n rest := by
  induction first generalizing acc with
  | nil => rfl
  | cons c cs ih =>
      simp only [List.cons_append, foldDigits, bind]
      cases value? c with
      | none => rfl
      | some d => exact ih _

/-- Zeros at the start do not count. -/
theorem foldDigits_zeros (hzero : value? '0' = some 0) (count : Nat) (cs : List Char) :
    foldDigits value? base 0 (List.replicate count '0' ++ cs) = foldDigits value? base 0 cs := by
  induction count with
  | zero => rfl
  | succ count ih => simpa [List.replicate_succ, foldDigits, hzero] using ih

/-- The digits of a number are read as the number. -/
theorem foldDigits_toDigits (hbase : 1 < base)
    (hdigit : ∀ d < base, value? d.digitChar = some d) (n : Nat) :
    foldDigits value? base 0 (Nat.toDigits base n) = some n := by
  induction n using Nat.strong_induction_on with
  | _ n ih =>
      rw [Nat.toDigits_eq_if hbase]
      split
      · rename_i hsmall
        simp [foldDigits, hdigit n hsmall]
      -- All digits but the last are those of the quotient, and the last is the remainder.
      · rename_i hlarge
        have hquotient : n / base < n := Nat.div_lt_self (by omega) hbase
        have hlast : n % base < base := Nat.mod_lt n (by omega)
        have hsum : n / base * base + n % base = n := Nat.div_add_mod' n base
        rw [foldDigits_append, ih _ hquotient]
        simp [foldDigits, hdigit _ hlast, hsum]

end

/-- Padding never makes the digits vanish. -/
theorem padZeros_ne_nil (width base n : Nat) : padZeros width (Nat.toDigits base n) ≠ [] := by
  simp [padZeros, Nat.toDigits_ne_nil]

/-- Characters that fit are filled up to the width. -/
theorem length_padZeros {width : Nat} {cs : List Char} (h : cs.length ≤ width) :
    (padZeros width cs).length = width := by
  rw [padZeros, List.length_append, List.length_replicate]
  omega

/-- A row of hexadecimal digits is read digit by digit unless it is empty. -/
theorem hexadecimal?_eq_foldDigits {cs : List Char} (h : cs ≠ []) :
    hexadecimal? cs = foldDigits hexDigit? 16 0 cs := by
  cases cs with
  | nil => exact absurd rfl h
  | cons => rfl

/-- A row of decimal digits is read digit by digit unless it is empty. -/
theorem decimal?_eq_foldDigits {cs : List Char} (h : cs ≠ []) :
    decimal? cs = foldDigits digit? 10 0 cs := by
  cases cs with
  | nil => exact absurd rfl h
  | cons => rfl

/-- A number in hexadecimal digits is read as itself. -/
theorem hexadecimal?_padZeros (width n : Nat) :
    hexadecimal? (padZeros width (Nat.toDigits 16 n)) = some n := by
  rw [hexadecimal?_eq_foldDigits (padZeros_ne_nil width 16 n), padZeros, foldDigits_zeros rfl]
  exact foldDigits_toDigits (by decide) (fun _ ↦ hexDigit?_digitChar) n

/-- The hexadecimal text of a number is read as the number. -/
theorem hexadecimal?_hexPadded (width n : Nat) :
    hexadecimal? (hexPadded width n).toList = some n := by
  rw [hexPadded, String.toList_ofList, hexadecimal?_padZeros]

/-- A number in decimal digits is read as itself. -/
theorem decimal?_padZeros (width n : Nat) :
    decimal? (padZeros width (Nat.toDigits 10 n)) = some n := by
  rw [decimal?_eq_foldDigits (padZeros_ne_nil width 10 n), padZeros, foldDigits_zeros rfl]
  exact foldDigits_toDigits (by decide) (fun _ ↦ digit?_digitChar) n

/-- Every character of a number is a digit of its base. -/
theorem exists_digit_of_mem_toDigits {base n : Nat} (hbase : 1 < base) {c : Char}
    (h : c ∈ Nat.toDigits base n) : ∃ d < base, c = d.digitChar := by
  induction n using Nat.strong_induction_on with
  | _ n ih =>
      rw [Nat.toDigits_eq_if hbase] at h
      split at h
      · rename_i hsmall
        exact ⟨n, hsmall, List.mem_singleton.mp h⟩
      · rename_i hlarge
        rcases List.mem_append.mp h with h | h
        · exact ih _ (Nat.div_lt_self (by omega) hbase) h
        · exact ⟨n % base, Nat.mod_lt n (by omega), List.mem_singleton.mp h⟩

/-- Every character of a padded number is a digit of its base. -/
theorem exists_digit_of_mem_padZeros {width base n : Nat} (hbase : 1 < base) {c : Char}
    (h : c ∈ padZeros width (Nat.toDigits base n)) : ∃ d < base, c = d.digitChar := by
  rcases List.mem_append.mp h with h | h
  · exact ⟨0, by omega, List.eq_of_mem_replicate h⟩
  · exact exists_digit_of_mem_toDigits hbase h

/-- `IsNumeral cs n` says that characters are a row of decimal digits with a value. -/
def IsNumeral (cs : List Char) (n : Nat) : Prop :=
  cs ≠ [] ∧ (∀ c ∈ cs, c.isDigit = true) ∧ Nat.ofDigitChars 10 cs 0 = n

/-- A numeral holds digits only. -/
theorem IsNumeral.not_mem {cs : List Char} {n : Nat} (h : IsNumeral cs n) {c : Char}
    (hc : c.isDigit = false) : c ∉ cs := fun hmem ↦ by
  rw [h.2.1 c hmem] at hc
  cases hc

/-- Characters are read as a number, after one that was read before, exactly if they are digits. -/
theorem foldDigits_digit?_eq_some_iff {acc n : Nat} {cs : List Char} :
    foldDigits digit? 10 acc cs = some n ↔
      (∀ c ∈ cs, c.isDigit = true) ∧ Nat.ofDigitChars 10 cs acc = n := by
  induction cs generalizing acc with
  | nil => simp [foldDigits]
  | cons c cs ih =>
      have hdigit : digit? c = if c.isDigit then some (c.toNat - 48) else none := rfl
      rw [foldDigits, hdigit, List.forall_mem_cons, Nat.ofDigitChars_cons]
      by_cases h : c.isDigit = true
      · simp [h, ih, Nat.mul_comm]
      · simp [h]

/-- What is read as a number is a numeral, and every numeral is read as its value. -/
theorem decimal?_eq_some_iff {cs : List Char} {n : Nat} :
    decimal? cs = some n ↔ IsNumeral cs n := by
  cases cs with
  | nil => simp [decimal?, IsNumeral]
  | cons c cs =>
      rw [decimal?_eq_foldDigits (List.cons_ne_nil c cs), foldDigits_digit?_eq_some_iff]
      simp [IsNumeral]

/-- A number that is written is a numeral, with any number of zeros before it. -/
theorem isNumeral_padZeros (width n : Nat) : IsNumeral (padZeros width (Nat.toDigits 10 n)) n :=
  decimal?_eq_some_iff.mp (decimal?_padZeros width n)

/-- A number that is written is a numeral. -/
theorem isNumeral_toDigits (n : Nat) : IsNumeral (Nat.toDigits 10 n) n :=
  ⟨Nat.toDigits_ne_nil,
    fun _ hc ↦ Nat.isDigit_of_mem_toDigits (by decide) (by decide) hc,
    Nat.ofDigitChars_ten_toDigits⟩

/-- `IsUnsigned cs n` says that characters are a numeral with a value, with a plus sign before it or
without one. -/
def IsUnsigned (cs : List Char) (n : Nat) : Prop :=
  ∃ digits, (cs = digits ∨ cs = '+' :: digits) ∧ IsNumeral digits n

/-- A number is read exactly if a numeral stands for it and it is below the bound. -/
theorem readUnsigned_eq_some_iff {bound n : Nat} {s : String} :
    readUnsigned bound s = some n ↔ IsUnsigned s.toList n ∧ n < bound := by
  have hplus : ∀ cs, IsUnsigned cs n ↔ IsNumeral (dropPlus cs) n := by
    intro cs
    unfold dropPlus
    split
    · rename_i digits
      refine ⟨?_, fun h ↦ ⟨_, .inr rfl, h⟩⟩
      rintro ⟨_, rfl | heq, h⟩
      · exact absurd List.mem_cons_self (h.not_mem rfl)
      · exact (List.cons_eq_cons.mp heq).2 ▸ h
    · rename_i hno
      refine ⟨?_, fun h ↦ ⟨_, .inl rfl, h⟩⟩
      rintro ⟨digits, rfl | rfl, h⟩
      · exact h
      · exact absurd rfl (hno digits)
  rw [hplus, ← decimal?_eq_some_iff, readUnsigned]
  cases decimal? (dropPlus s.toList) with
  | none => simp
  | some m =>
      simp only [bind, Option.bind, Option.some_inj]
      split
      · rename_i hbound
        rw [Option.some_inj]
        exact ⟨fun h ↦ ⟨h, h ▸ hbound⟩, And.left⟩
      · rename_i hbound
        exact ⟨fun h ↦ (nomatch h), fun h ↦ absurd (h.1 ▸ h.2) hbound⟩

/-- Every digit is the digit of its value. -/
theorem exists_digitChar {c : Char} (h : c.isDigit = true) :
    ∃ d < 10, c = d.digitChar ∧ c.toNat - '0'.toNat = d := by
  obtain ⟨hlow, hhigh⟩ := Char.isDigit_iff_toNat.mp h
  have hlow : 48 ≤ c.toNat := hlow
  have hhigh : c.toNat ≤ 57 := hhigh
  refine ⟨c.toNat - 48, by omega, Char.toNat_inj.mp ?_, rfl⟩
  rw [Nat.toNat_digitChar_of_lt_ten (by omega)]
  omega

/-- A number above zero is written with the digits that come after its first ones. -/
theorem toDigits_ofDigitChars {acc : Nat} {cs : List Char} (hacc : 0 < acc)
    (hcs : ∀ c ∈ cs, c.isDigit = true) :
    Nat.toDigits 10 (Nat.ofDigitChars 10 cs acc) = Nat.toDigits 10 acc ++ cs := by
  induction cs generalizing acc with
  | nil => simp
  | cons c cs ih =>
      obtain ⟨hc, htail⟩ := List.forall_mem_cons.mp hcs
      obtain ⟨d, hd, rfl, hvalue⟩ := exists_digitChar hc
      have hone := Nat.toDigits_append_toDigits (by decide : 1 < 10) hacc hd
      rw [Nat.toDigits_of_lt_base hd] at hone
      rw [Nat.ofDigitChars_cons, hvalue, ih (by omega) htail, ← hone, List.append_assoc]
      rfl

/-- A numeral that does not begin with zero is the one that is written for its value. -/
theorem IsNumeral.eq_toDigits {c : Char} {cs : List Char} {n : Nat} (h : IsNumeral (c :: cs) n)
    (hzero : c ≠ '0') : c :: cs = Nat.toDigits 10 n := by
  obtain ⟨-, hdigits, rfl⟩ := h
  obtain ⟨hc, hcs⟩ := List.forall_mem_cons.mp hdigits
  obtain ⟨d, hd, rfl, hvalue⟩ := exists_digitChar hc
  have hpos : 0 < d := by
    rcases Nat.eq_zero_or_pos d with rfl | hpos
    · exact absurd rfl hzero
    · exact hpos
  rw [Nat.ofDigitChars_cons, hvalue, Nat.mul_zero, Nat.zero_add, toDigits_ofDigitChars hpos hcs,
    Nat.toDigits_of_lt_base hd]
  rfl

/-- A numeral is the one that is written for its value with zeros up to its width. -/
theorem IsNumeral.eq_padZeros {cs : List Char} {n : Nat} (h : IsNumeral cs n) :
    cs = padZeros cs.length (Nat.toDigits 10 n) := by
  induction cs with
  | nil => exact absurd rfl h.1
  | cons c cs ih =>
      by_cases hzero : c = '0'
      · subst hzero
        obtain ⟨-, hdigits, hvalue⟩ := h
        rw [Nat.ofDigitChars_cons] at hvalue
        by_cases hnil : cs = []
        · subst hnil
          obtain rfl : 0 = n := hvalue
          rfl
        · have hrest := ih ⟨hnil, (List.forall_mem_cons.mp hdigits).2, hvalue⟩
          have hfits : (Nat.toDigits 10 n).length ≤ cs.length := by
            have hlength := congrArg List.length hrest
            rw [padZeros, List.length_append, List.length_replicate] at hlength
            omega
          rw [padZeros, List.length_cons, Nat.succ_sub hfits, List.replicate_succ,
            List.cons_append, ← padZeros, ← hrest]
      · have heq := h.eq_toDigits hzero
        rw [padZeros, heq, Nat.sub_self]
        rfl

/-- The numeral without superfluous zeros is the one that is written. -/
theorem isNumeral_plain_iff {cs : List Char} {n : Nat} :
    IsNumeral cs n ∧ (cs.head? = some '0' → cs = ['0']) ↔ cs = Nat.toDigits 10 n := by
  constructor
  · rintro ⟨h, hplain⟩
    cases cs with
    | nil => exact absurd rfl h.1
    | cons c cs =>
        by_cases hzero : c = '0'
        · subst hzero
          obtain ⟨-, -, hvalue⟩ := h
          rw [hplain rfl] at hvalue ⊢
          rw [← hvalue]
          rfl
        · exact h.eq_toDigits hzero
  · rintro rfl
    refine ⟨isNumeral_toDigits n, fun hzero ↦ ?_⟩
    -- Without its first zero the numeral would be written with fewer digits than it is.
    cases hdigits : Nat.toDigits 10 n with
    | nil => exact absurd hdigits Nat.toDigits_ne_nil
    | cons c cs =>
        rw [hdigits, List.head?_cons, Option.some_inj] at hzero
        subst hzero
        by_contra hmore
        have hnumeral := hdigits ▸ isNumeral_toDigits n
        have hrest : IsNumeral cs n := ⟨fun hnil ↦ hmore (hnil ▸ rfl),
          (List.forall_mem_cons.mp hnumeral.2.1).2, hnumeral.2.2⟩
        have hlength := congrArg List.length hrest.eq_padZeros
        rw [hdigits, padZeros, List.length_append, List.length_cons] at hlength
        omega

/-- The numeral of a width that a number fits in is the one that is written with zeros. -/
theorem isNumeral_width_iff {cs : List Char} {width n : Nat} (hwidth : 0 < width)
    (h : n < 10 ^ width) :
    IsNumeral cs n ∧ cs.length = width ↔ cs = padZeros width (Nat.toDigits 10 n) := by
  constructor
  · rintro ⟨hnumeral, rfl⟩
    exact hnumeral.eq_padZeros
  · rintro rfl
    exact ⟨isNumeral_padZeros width n,
      length_padZeros ((Nat.length_toDigits_le_iff (by decide) hwidth).mpr h)⟩

/-- A number is shown by no other text than another number. -/
theorem decimal_inj {m n : Nat} : decimal m = decimal n ↔ m = n := by
  refine ⟨fun h ↦ ?_, congrArg decimal⟩
  have hdigits : Nat.toDigits 10 m = Nat.toDigits 10 n := String.ofList_inj.mp h
  rw [← Nat.ofDigitChars_ten_toDigits (n := m), hdigits, Nat.ofDigitChars_ten_toDigits]

/-- Only digits are in the text of a number. -/
theorem not_mem_decimal {c : Char} (hc : c.isDigit = false) (n : Nat) :
    c ∉ (decimal n).toList := by
  rw [decimal, String.toList_ofList]
  exact IsNumeral.not_mem (isNumeral_toDigits n) hc

/-- Only digits and a minus sign are in the text of an integer. -/
theorem not_mem_decimalInt {c : Char} (hc : c.isDigit = false) (hsign : c ≠ '-') (n : Int) :
    c ∉ (decimalInt n).toList := by
  have hdecimal := not_mem_decimal hc n.natAbs
  unfold decimalInt
  split
  · simpa [hsign] using hdecimal
  · exact hdecimal

/-- An integer is shown by no other text than another integer. -/
theorem decimalInt_inj {m n : Int} : decimalInt m = decimalInt n ↔ m = n := by
  refine ⟨fun h ↦ ?_, congrArg decimalInt⟩
  -- A text without a sign is not that of a number below zero.
  have hsign : ∀ (a b : Nat), "-" ++ decimal a ≠ decimal b := fun a b heq ↦ by
    have hmem : '-' ∈ (decimal b).toList := heq ▸ by simp
    exact not_mem_decimal rfl b hmem
  unfold decimalInt at h
  split at h <;> split at h
  · have hsize := decimal_inj.mp (String.append_right_inj "-" |>.mp h)
    omega
  · exact absurd h (hsign _ _)
  · exact absurd h.symm (hsign _ _)
  · have hsize := decimal_inj.mp h
    omega

/-- A number is shown by no other hexadecimal digits than another number. -/
theorem hexPadded_inj {width m n : Nat} : hexPadded width m = hexPadded width n ↔ m = n := by
  refine ⟨fun h ↦ ?_, congrArg (hexPadded width)⟩
  have hread := hexadecimal?_hexPadded width m
  rw [h, hexadecimal?_hexPadded, Option.some_inj] at hread
  exact hread.symm

/-- Only digits are in the hexadecimal text of a number. -/
theorem not_mem_hexPadded {c : Char} (hc : hexDigit? c = none) (width n : Nat) :
    c ∉ (hexPadded width n).toList := by
  intro hmem
  rw [hexPadded, String.toList_ofList] at hmem
  obtain ⟨d, hd, rfl⟩ := exists_digit_of_mem_padZeros (by decide) hmem
  rw [hexDigit?_digitChar hd] at hc
  cases hc

end Storefront.Text
