import Storefront.Proofs.Text.Numeral
import Storefront.Timestamp

/-!
# Written instants are read back

An instant is read from its text as itself, `Timestamp.parse?_text`. The parts of the text have
fixed widths, but for the year and the decimals, which end before something that is no digit, and a
leap second is shown as the sixtieth of its minute.
-/

namespace Storefront

/-- A day of the calendar has a month and a day of at most two digits. -/
theorem Date.bounds (d : Date) : d.month < 13 ∧ d.day < 32 := by
  obtain ⟨hfirst, hlast⟩ := d.isDate
  unfold monthLength at hlast
  split at hlast
  · split at hlast <;> omega
  split at hlast
  · omega
  split at hlast <;> omega

namespace Timestamp

/-- A decimal digit is a digit and no blank. -/
theorem digit_spec {c : Char} (h : ∃ d < 10, c = Nat.digitChar d) :
    c.isDigit = true ∧ Text.isBlank c = false ∧ c ≠ '-' ∧ c ≠ '+' := by
  obtain ⟨d, hd, rfl⟩ := h
  interval_cases d <;> decide

/-- The digits of a number with zeros before them. -/
def digits (width n : Nat) : List Char :=
  Text.padZeros width (Nat.toDigits 10 n)

/-- What is written of a number is digits. -/
theorem spec_of_mem_digits {width n : Nat} {c : Char} (h : c ∈ digits width n) :
    c.isDigit = true ∧ Text.isBlank c = false ∧ c ≠ '-' ∧ c ≠ '+' :=
  digit_spec (Text.exists_digit_of_mem_padZeros (by decide) h)

/-- A number that has at most so many digits is written with so many. -/
theorem length_digits {width n : Nat} (hwidth : 0 < width) (h : n < 10 ^ width) :
    (digits width n).length = width :=
  Text.length_padZeros ((Nat.length_toDigits_le_iff (by decide) hwidth).mpr h)

/-- The first digit of a number. -/
theorem exists_digits_eq (width n : Nat) :
    ∃ c cs, digits width n = c :: cs ∧ c.isDigit = true ∧ Text.isBlank c = false ∧ c ≠ '-' ∧
      c ≠ '+' := by
  cases h : digits width n with
  | nil => exact absurd h (Text.padZeros_ne_nil width 10 n)
  | cons c cs => exact ⟨c, cs, rfl, spec_of_mem_digits (h ▸ List.mem_cons_self)⟩

/-- There are no blanks before a number. -/
theorem skipBlanks_digits (width n : Nat) (rest : List Char) :
    skipBlanks (digits width n ++ rest) = digits width n ++ rest := by
  obtain ⟨c, cs, hdigits, -, hblank, -⟩ := exists_digits_eq width n
  rw [hdigits, List.cons_append, skipBlanks, List.dropWhile_cons_of_neg (by simp [hblank])]

/-- The digits are those before something that is no digit. -/
theorem takeWhile_digits (width n : Nat) (rest : List Char)
    (hrest : rest.takeWhile Char.isDigit = []) :
    (digits width n ++ rest).takeWhile Char.isDigit = digits width n := by
  rw [List.takeWhile_append_of_pos fun c hc ↦ (spec_of_mem_digits hc).1, hrest, List.append_nil]

/-- A number is read if its digits are all that is looked at. -/
theorem number?_digits {width limit n : Nat} {rest : List Char}
    (h : ((digits width n ++ rest).take limit).takeWhile Char.isDigit = digits width n) :
    number? limit (digits width n ++ rest) = some (n, rest) := by
  have hread : Text.decimal? (digits width n) = some n := Text.decimal?_padZeros width n
  simp only [number?, skipBlanks_digits, h, hread, bind, Option.bind, List.drop_left]

/-- A number is read by its width. -/
theorem number?_width (width n : Nat) (rest : List Char) (hwidth : 0 < width)
    (h : n < 10 ^ width) : number? width (digits width n ++ rest) = some (n, rest) := by
  refine number?_digits ?_
  have htaken := takeWhile_digits width n [] rfl
  rw [List.take_left' (length_digits hwidth h)]
  rwa [List.append_nil] at htaken

/-- A character that is no blank is skipped. -/
theorem literal?_cons {c : Char} (h : Text.isBlank c = false) (rest : List Char) :
    literal? c (c :: rest) = some rest := by
  simp [literal?, skipBlanks, h]

/-- A number that is followed by no digit is read however many digits it has. -/
theorem number?_length (width n : Nat) {rest : List Char}
    (hrest : rest.takeWhile Char.isDigit = []) :
    number? (digits width n ++ rest).length (digits width n ++ rest) = some (n, rest) := by
  refine number?_digits ?_
  rw [List.take_length]
  exact takeWhile_digits width n rest hrest

/-- A year after a sign is read. -/
theorem year?_signed (n : Nat) {rest : List Char} (hrest : rest.takeWhile Char.isDigit = []) :
    year? ('-' :: (digits 4 n ++ rest)) = some (-(n : Int), rest) ∧
      year? ('+' :: (digits 4 n ++ rest)) = some ((n : Int), rest) := by
  obtain ⟨c, cs, hdigits, hdigit, -⟩ := exists_digits_eq 4 n
  have hnumber := number?_length 4 n hrest
  rw [hdigits, List.cons_append] at hnumber ⊢
  have hminus : ∀ cs, skipBlanks ('-' :: cs) = '-' :: cs := fun _ ↦ rfl
  have hplus : ∀ cs, skipBlanks ('+' :: cs) = '+' :: cs := fun _ ↦ rfl
  constructor
  · unfold year?
    rw [hminus]
    simp only [List.head?_cons, Option.any_some, hdigit, if_true, hnumber, Option.map_some]
  · unfold year?
    rw [hplus]
    simp only [List.head?_cons, Option.any_some, hdigit, if_true, hnumber, Option.map_some]

/-- A year is read. -/
theorem year?_yearText (year : Int) (rest : List Char)
    (hrest : rest.takeWhile Char.isDigit = []) :
    year? ((yearText year).toList ++ rest) = some (year, rest) := by
  have htext : (Text.decimalPadded 4 year.natAbs).toList = digits 4 year.natAbs :=
    String.toList_ofList
  obtain ⟨hminus, hplus⟩ := year?_signed year.natAbs hrest
  unfold yearText
  split
  · rename_i h
    have habs : (year.natAbs : Int) = year := Int.natAbs_of_nonneg h.1
    have hnumber := number?_width 4 year.natAbs rest (by decide) (by omega)
    obtain ⟨c, cs, hdigits, -, -, hnominus, hnoplus⟩ := exists_digits_eq 4 year.natAbs
    rw [htext, year?, skipBlanks_digits]
    rw [hdigits, List.cons_append] at hnumber ⊢
    split
    · rename_i hsign
      exact absurd (List.cons.inj hsign).1 hnominus
    · rename_i hsign
      exact absurd (List.cons.inj hsign).1 hnoplus
    · simp [hnumber, habs]
  · rw [String.toList_append, htext]
    split
    · rename_i h
      have habs : -(year.natAbs : Int) = year := by omega
      rw [habs] at hminus
      exact hminus
    · rename_i h
      have habs : (year.natAbs : Int) = year := Int.natAbs_of_nonneg (Int.not_lt.mp h)
      rw [habs] at hplus
      exact hplus

/-- Decimals of a given width are read as nanoseconds. -/
theorem fraction?_digits {width n : Nat} (hwidth : 0 < width) (hlimit : width ≤ 9)
    (h : n < 10 ^ width) :
    fraction? (("." ++ Text.decimalPadded width n).toList ++ ['Z']) =
      some (n * 10 ^ (9 - width), ['Z']) := by
  have htext : ("." ++ Text.decimalPadded width n).toList = '.' :: digits width n := by
    simp [Text.decimalPadded, digits]
  have hlength := length_digits hwidth h
  have htaken : ((digits width n ++ ['Z']).take 9).takeWhile Char.isDigit = digits width n := by
    rw [List.take_append, List.take_of_length_le (by omega)]
    refine takeWhile_digits width n _ ?_
    cases 9 - (digits width n).length <;> rfl
  have hread : Text.decimal? (digits width n) = some n := Text.decimal?_padZeros width n
  rw [htext, List.cons_append, fraction?, htaken]
  simp [hread, hlength, List.drop_left' hlength, bind, Option.bind]

/-- The decimals of a second are read. -/
theorem fraction?_fractionText {nanos : Nat} (h : nanos < 1000000000) :
    fraction? ((fractionText nanos).toList ++ ['Z']) = some (nanos, ['Z']) := by
  unfold fractionText
  split
  · rename_i hzero
    rw [hzero]
    rfl
  split
  · rename_i hmillis
    have hsum : nanos / 1000000 * 10 ^ (9 - 3) = nanos := by omega
    rw [fraction?_digits (by decide) (by decide) (by omega), hsum]
  split
  · rename_i hmicros
    have hsum : nanos / 1000 * 10 ^ (9 - 6) = nanos := by omega
    rw [fraction?_digits (by decide) (by decide) (by omega), hsum]
  · have hsum : nanos * 10 ^ (9 - 9) = nanos := by omega
    rw [fraction?_digits (by decide) (by decide) (by omega), hsum]

/-- The second of the minute that is shown of an instant: a leap second is the sixtieth. -/
def shownSecond (t : Timestamp) : Nat :=
  t.second % 60 + if t.leap then 1 else 0

/-- The second that is shown is the sixtieth exactly in a leap second, and the second of the day is
found from what is shown. -/
theorem shownSecond_spec (t : Timestamp) :
    (t.shownSecond == 60) = t.leap ∧ t.shownSecond ≤ 60 ∧
      t.second / 3600 * 3600 + t.second / 60 % 60 * 60 +
        (if t.leap then 59 else t.shownSecond) = t.second := by
  have hlast := t.leap_spec
  unfold shownSecond
  cases hleap : t.leap with
  | true =>
      have hsecond := hlast hleap
      simp only [hsecond, if_true]
      exact ⟨rfl, by decide, by omega⟩
  | false =>
      refine ⟨beq_eq_false_iff_ne.mpr ?_, ?_, ?_⟩ <;> simp only [Bool.false_eq_true, if_false]
        <;> omega

/-- The characters of an instant. -/
theorem toList_text (t : Timestamp) :
    t.text.toList = (yearText t.date.year).toList ++ ('-' :: (digits 2 t.date.month ++
      ('-' :: (digits 2 t.date.day ++ ('T' :: (digits 2 (t.second / 3600) ++
        (':' :: (digits 2 (t.second / 60 % 60) ++ (':' :: (digits 2 t.shownSecond ++
          ((fractionText t.nanos).toList ++ ['Z']))))))))))) := by
  simp [text, Text.decimalPadded, digits, shownSecond]

/-- An instant in universal time is itself. -/
theorem ofLocal?_zero (t : Timestamp) {second : Nat} {leap : Bool} (hsecond : second = t.second)
    (hleap : leap = t.leap) (leap_spec : leap = true → second % 60 = 59) :
    ofLocal? t.date second leap t.nanos 0 leap_spec t.nanos_lt = some t := by
  subst hsecond hleap
  have hlt := t.second_lt
  have hday : ¬((t.second : Int) - 60 * 0 < 0) ∧
      ¬((secondsPerDay : Int) ≤ t.second - 60 * 0) := by omega
  have hmod : (((t.second : Int) - 60 * 0) % secondsPerDay).toNat = t.second := by
    rw [Int.emod_eq_of_lt (by omega) (by omega)]
    omega
  simp only [ofLocal?, if_neg hday.1, if_neg hday.2, hmod]
  exact dif_pos t.year_spec

/-- An instant is read as itself. -/
theorem parse?_text (t : Timestamp) : parse? t.text = some t := by
  have hsecond : t.second < 86400 := t.second_lt
  obtain ⟨hmonth, hday⟩ := t.date.bounds
  obtain ⟨hleap, hsixty, htotal⟩ := t.shownSecond_spec
  have htwo : ∀ n < 100, ∀ rest, number? 2 (digits 2 n ++ rest) = some (n, rest) :=
    fun n hn rest ↦ number?_width 2 n rest (by decide) hn
  have hhyphen : Text.isBlank '-' = false := by decide
  have hcolon : Text.isBlank ':' = false := by decide
  have hseparator : ∀ rest, separator? ('T' :: rest) = some rest := fun _ ↦ rfl
  have hzone : offset? (skipBlanks ['Z']) = some (0, []) := by decide
  have hparts : t.second / 3600 < 24 ∧ t.second / 60 % 60 < 60 := by omega
  have hend : (skipBlanks []).isEmpty = true := rfl
  have hoffset : 60 * Int.natAbs 0 < secondsPerDay := by decide
  rw [parse?, toList_text]
  simp only [bind, Option.bind, year?_yearText t.date.year ('-' :: _) rfl,
    literal?_cons hhyphen, literal?_cons hcolon, htwo _ (show t.date.month < 100 by omega),
    htwo _ (show t.date.day < 100 by omega), htwo _ (show t.second / 3600 < 100 by omega),
    htwo _ (show t.second / 60 % 60 < 100 by omega), htwo _ (show t.shownSecond < 100 by omega),
    hseparator, fraction?_fractionText t.nanos_lt, hzone, hend, hparts, hoffset, hsixty,
    t.year_spec, t.date.isDate, t.nanos_lt, Bool.and_self, decide_true, if_true, dite_true]
  exact t.ofLocal?_zero (by rw [hleap, htotal]) hleap _

end Timestamp

end Storefront
