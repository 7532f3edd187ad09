import Mathlib.Data.List.Basic
import Storefront.Order.Basic
import Storefront.Proofs.Text.Numeral
import Storefront.Proofs.Text.Pieces

/-!
# What the diagnostic of a card shows

The diagnostic of a card shows the last four characters of the number, the month, and the year. The
characters before them are cut off at a byte, and the cut never goes through a character,
`isCut_lastFour`. The main theorem, `debug_masks_number`, says that, and that the diagnostics of two
cards are equal exactly if those three parts are: nothing else of a card can be told from it, and
nothing of the three is lost.
-/

namespace Storefront

namespace Text

/-- `IsCut s offset first second` says that a text is cut at a byte, between two of its characters
or at one of its ends, into a first and a second part. -/
def IsCut (s : String) (offset : Nat) (first second : String) : Prop :=
  s = first ++ second ∧ first.utf8ByteSize = offset

/-- A label that does not begin anew within so many characters is not found within them. -/
theorem eq_nil_of_label {mark : Char} {label shift x y : List Char} {width : Nat}
    (hlabel : mark ∉ label.take width) (hwidth : width ≤ label.length)
    (hshift : shift.length ≤ width)
    (h : mark :: (label ++ x) = shift ++ mark :: (label ++ y)) : shift = [] := by
  cases shift with
  | nil => rfl
  | cons c shift =>
      rw [List.length_cons] at hshift
      rw [List.cons_append, List.cons_eq_cons] at h
      have hat : (label ++ x)[shift.length]? = some mark := by
        rw [h.2, List.getElem?_append_right (le_refl _), Nat.sub_self]
        rfl
      rw [List.getElem?_append_left (by omega)] at hat
      refine absurd (List.mem_of_getElem? (i := shift.length) ?_) hlabel
      rw [List.getElem?_take_of_lt (by omega), hat]

/-- What stands before a label can be told from the text, and so can what stands after it, if it is
so short that the label does not begin anew within it. -/
theorem append_label_inj {mark : Char} {label first second x y : List Char} {width : Nat}
    (hlabel : mark ∉ label.take width) (hwidth : width ≤ label.length)
    (hfirst : first.length ≤ width) (hsecond : second.length ≤ width)
    (h : first ++ mark :: (label ++ x) = second ++ mark :: (label ++ y)) :
    first = second ∧ x = y := by
  have heq : first = second := by
    rcases List.append_eq_append_iff.mp h with ⟨shift, rfl, hrest⟩ | ⟨shift, rfl, hrest⟩
    · rw [List.length_append] at hsecond
      rw [eq_nil_of_label hlabel hwidth (by omega) hrest, List.append_nil]
    · rw [List.length_append] at hfirst
      rw [eq_nil_of_label hlabel hwidth (by omega) hrest, List.append_nil]
  subst heq
  have hrest := (List.cons_eq_cons.mp (List.append_cancel_left h)).2
  exact ⟨rfl, List.append_cancel_left hrest⟩

end Text

namespace Card

/-- The last four characters are cut off where a character begins. -/
theorem isCut_lastFour (card : Card) :
    ∃ hidden, Text.IsCut (Text.trim card.number) (Text.tailStart 3 (Text.trim card.number))
      hidden card.lastFour := by
  refine ⟨.ofList ((Text.trim card.number).toList.take
    ((Text.trim card.number).toList.length - 4)), ?_, (Text.tailStart_eq 3 _).symm⟩
  have htail : card.lastFour = .ofList ((Text.trim card.number).toList.drop
      ((Text.trim card.number).toList.length - 4)) := by
    rw [← String.toList_inj, lastFour, Text.toList_tail, String.toList_ofList]
  rw [htail]
  exact Text.eq_take_append_drop _ _

/-- There are four of them, or all if there are fewer. -/
theorem length_lastFour (card : Card) :
    card.lastFour.toList.length = min 4 (Text.trim card.number).toList.length := by
  rw [lastFour, Text.toList_tail, List.length_drop]
  omega

/-- What stands before the month, after a comma. -/
def monthLabel : List Char := " credit_card_expiration_month: ".toList

/-- What stands before the year, after a comma. -/
def yearLabel : List Char := " credit_card_expiration_year: ".toList

/-- The characters of a diagnostic. -/
theorem exists_toList_debug :
    ∃ opening closing : List Char, ∀ card : Card, card.debug.toList = opening ++
      (card.lastFour.toList ++ ',' :: (monthLabel ++
        ((Text.decimal card.expirationMonth.toNat).toList ++ ',' :: (yearLabel ++
          ((Text.decimalInt card.expirationYear.toInt).toList ++ ',' :: closing))))) := by
  refine ⟨"CreditCardInfo \x7b credit_card_number: ****".toList, " .. \x7d".toList, fun card ↦ ?_⟩
  have hmonth : ", credit_card_expiration_month: ".toList = ',' :: monthLabel := by decide
  have hyear : ", credit_card_expiration_year: ".toList = ',' :: yearLabel := by decide
  have hclosing : ", .. \x7d".toList = ',' :: " .. \x7d".toList := by decide
  unfold debug
  simp only [String.toList_append, hmonth, hyear, hclosing, List.append_assoc, List.cons_append]

/-- Equal diagnostics show equal parts. -/
theorem parts_of_debug {a b : Card} (h : a.debug = b.debug) :
    a.lastFour = b.lastFour ∧ a.expirationMonth = b.expirationMonth ∧
      a.expirationYear = b.expirationYear := by
  obtain ⟨opening, closing, htext⟩ := exists_toList_debug
  have htexts := congrArg String.toList h
  rw [htext, htext] at htexts
  have hshort : ∀ card : Card, card.lastFour.toList.length ≤ 4 := fun card ↦ by
    rw [length_lastFour]
    omega
  obtain ⟨htail, hafterTail⟩ := Text.append_label_inj (by decide) (by decide) (hshort a)
    (hshort b) (List.append_cancel_left htexts)
  obtain ⟨hmonth, hafterMonth⟩ := Text.append_separator_inj (Text.not_mem_decimal rfl _)
    (Text.not_mem_decimal rfl _) hafterTail
  obtain ⟨hyear, -⟩ := Text.append_separator_inj (Text.not_mem_decimalInt rfl (by decide) _)
    (Text.not_mem_decimalInt rfl (by decide) _) (List.append_cancel_left hafterMonth)
  exact ⟨String.toList_inj.mp htail,
    UInt32.toNat_inj.mp (Text.decimal_inj.mp (String.toList_inj.mp hmonth)),
    Int32.toInt_inj.mp (Text.decimalInt_inj.mp (String.toList_inj.mp hyear))⟩

/-- The last four characters of a number without the blanks around it are cut off where a character
begins, and are all of them if there are fewer; and the diagnostics of two cards are equal exactly
if those characters, the months, and the years are. -/
theorem debug_masks_number :
    (∀ card : Card,
      (∃ hidden, Text.IsCut (Text.trim card.number) (Text.tailStart 3 (Text.trim card.number))
        hidden card.lastFour) ∧
      card.lastFour.toList.length = min 4 (Text.trim card.number).toList.length) ∧
    ∀ a b : Card, a.debug = b.debug ↔
      a.lastFour = b.lastFour ∧ a.expirationMonth = b.expirationMonth ∧
        a.expirationYear = b.expirationYear := by
  refine ⟨fun card ↦ ⟨card.isCut_lastFour, card.length_lastFour⟩, fun a b ↦
    ⟨parts_of_debug, ?_⟩⟩
  rintro ⟨htail, hmonth, hyear⟩
  unfold debug
  rw [htail, hmonth, hyear]

/-- A number in characters of several bytes, with blanks around it. -/
example : lastFour ⟨"  12é€😀\n", 672, 2030, 1⟩ = "2é€😀" := by
  decide +kernel

end Card

end Storefront
