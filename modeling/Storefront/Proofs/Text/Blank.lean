import Mathlib.Data.List.DropRight
import Mathlib.Data.List.TakeWhile
import Storefront.Text.Blank

/-!
# Blanks at the ends

What is left of a text without the blanks at its ends: nothing exactly if the text is blank,
`trim_eq_empty_iff`, and the same again if they are removed again, `trim_trim`.
-/

namespace Storefront.Text

/-- Nothing is left of a text without the blanks at its ends exactly if it is blank. -/
theorem trim_eq_empty_iff (s : String) : trim s = "" ↔ isBlankText s = true := by
  have hempty : trim s = "" ↔ ∀ c ∈ s.toList.dropWhile isBlank, isBlank c = true := by
    rw [trim, dropEnds, dropTail, ← String.ofList_nil, String.ofList_inj, List.reverse_eq_nil_iff,
      List.dropWhile_eq_nil_iff]
    simp only [List.mem_reverse]
  rw [hempty, isBlankText, List.all_eq_true]
  constructor
  · intro h
    -- What is left begins with a character that is not blank, so nothing is left.
    have hnone : s.toList.dropWhile isBlank = [] := by
      by_contra hsome
      have hhead := List.head_dropWhile_not isBlank hsome
      rw [h _ (List.head_mem hsome)] at hhead
      cases hhead
    exact List.dropWhile_eq_nil_iff.mp hnone
  · intro h c hc
    exact h c ((List.dropWhile_suffix isBlank).subset hc)

/-- Where no end is of a class, nothing is removed. -/
theorem dropEnds_eq_self {p : Char → Bool} {cs : List Char} (h : ∀ c ∈ cs, p c = false) :
    dropEnds p cs = cs := by
  have hkeep : ∀ ds : List Char, (∀ d ∈ ds, p d = false) → ds.dropWhile p = ds := by
    intro ds hds
    cases ds with
    | nil => rfl
    | cons d ds => rw [List.dropWhile_cons_of_neg (by simp [hds d List.mem_cons_self])]
  rw [dropEnds, dropTail, hkeep cs h, hkeep cs.reverse (by simpa using h), List.reverse_reverse]

/-- What is left begins with none of the characters that were removed, however long a tail goes. -/
theorem dropWhile_dropEnds (p : Char → Bool) (cs : List Char) :
    (dropEnds p cs).dropWhile p = dropEnds p cs := by
  refine List.dropWhile_eq_self_iff.mpr fun hlength ↦ ?_
  have hbegins : dropEnds p cs <+: cs.dropWhile p := List.rdropWhile_prefix p _
  rw [hbegins.getElem hlength]
  exact List.dropWhile_get_zero_not p cs _

/-- Removing a class of characters from the ends again removes nothing. -/
theorem dropEnds_dropEnds (p : Char → Bool) (cs : List Char) :
    dropEnds p (dropEnds p cs) = dropEnds p cs := by
  rw [dropEnds, dropWhile_dropEnds]
  exact List.rdropWhile_idempotent p _

/-- Removing the blanks at the ends again removes nothing. -/
theorem trim_trim (s : String) : trim (trim s) = trim s := by
  rw [trim, trim, String.toList_ofList, dropEnds_dropEnds]

/-- What all belongs to a class is dropped from the end, whatever stands before it. -/
theorem dropTail_append_gap {p : Char → Bool} {gap : List Char} (h : ∀ c ∈ gap, p c = true)
    (first : List Char) : dropTail p (first ++ gap) = dropTail p first := by
  have hreverse : ∀ c ∈ gap.reverse, p c = true := fun c hc ↦ h c (List.mem_reverse.mp hc)
  rw [dropTail, List.reverse_append, List.dropWhile_append_of_pos hreverse, dropTail]

/-- What all belongs to a class is dropped altogether. -/
theorem dropEnds_eq_nil {p : Char → Bool} {gap : List Char} (h : ∀ c ∈ gap, p c = true) :
    dropEnds p gap = [] := by
  have hnil : gap.dropWhile p = [] := List.dropWhile_eq_nil_iff.mpr h
  rw [dropEnds, hnil]
  rfl

/-- What all belongs to a class is dropped from both ends. -/
theorem dropEnds_between_gaps {p : Char → Bool} {before after : List Char}
    (hbefore : ∀ c ∈ before, p c = true) (hafter : ∀ c ∈ after, p c = true) (cs : List Char) :
    dropEnds p (before ++ cs ++ after) = dropEnds p cs := by
  rw [List.append_assoc, dropEnds, List.dropWhile_append_of_pos hbefore, dropEnds,
    List.dropWhile_append]
  split
  -- Nothing is left of the characters themselves, so the gap after them goes with them.
  · rename_i hnone
    have hnil : after.dropWhile p = [] := List.dropWhile_eq_nil_iff.mpr hafter
    rw [hnil, List.isEmpty_iff.mp hnone]
  · exact dropTail_append_gap hafter _

end Storefront.Text
