/-!
# The tail of a text

The last characters of a text, cut off at a byte. `tailStart` finds the byte where they begin by
walking back over characters, and `isValid_tailStart` says that a character begins there or that
the text ends there, so `tail` never cuts through a character.
-/

namespace Storefront.Text

/-- The bytes at which characters begin when the first of them begins at `start`. -/
def offsets : Nat → List Char → List Nat
  | _, [] => []
  | start, c :: cs => start :: offsets (start + c.utf8Size) cs

/-- The byte at which the character with `k` characters after it begins, and the first byte of a
text that has no such character. -/
def tailStart (k : Nat) (s : String) : Nat :=
  ((offsets 0 s.toList).reverse[k]?).getD 0

/-- Every character begins. -/
theorem length_offsets (start : Nat) (cs : List Char) : (offsets start cs).length = cs.length := by
  induction cs generalizing start with
  | nil => rfl
  | cons c cs ih => exact congrArg Nat.succ (ih _)

/-- A character begins after the bytes of all characters before it. -/
theorem getElem?_offsets {start i offset : Nat} {cs : List Char}
    (h : (offsets start cs)[i]? = some offset) :
    offset = start + (String.ofList (cs.take i)).utf8ByteSize := by
  induction cs generalizing start i with
  | nil => cases h
  | cons c cs ih =>
      cases i with
      | zero =>
          cases h
          rfl
      | succ i =>
          rw [ih h, List.take_succ_cons, String.ofList_cons, String.utf8ByteSize_append,
            String.utf8ByteSize_singleton, Nat.add_assoc]

/-- The tail begins after the bytes of all characters before it. -/
theorem tailStart_eq (k : Nat) (s : String) :
    tailStart k s =
      (String.ofList (s.toList.take (s.toList.length - (k + 1)))).utf8ByteSize := by
  unfold tailStart
  rcases Nat.lt_or_ge k s.toList.length with hk | hk
  · have hlength : k < (offsets 0 s.toList).length := by rwa [length_offsets]
    rw [List.getElem?_reverse hlength, length_offsets]
    have hindex : s.toList.length - 1 - k < (offsets 0 s.toList).length := by
      rw [length_offsets]
      omega
    have hoffset := getElem?_offsets (List.getElem?_eq_getElem hindex)
    rw [List.getElem?_eq_getElem hindex, Option.getD_some, hoffset, Nat.zero_add,
      Nat.sub_sub, Nat.add_comm 1 k]
  -- There are not so many characters, so nothing stands before the tail.
  · have hnone : (offsets 0 s.toList).reverse[k]? = none :=
      List.getElem?_eq_none (by rwa [List.length_reverse, length_offsets])
    rw [hnone, Nat.sub_eq_zero_of_le (by omega)]
    rfl

/-- A text is its first characters and the others. -/
theorem eq_take_append_drop (n : Nat) (s : String) :
    s = .ofList (s.toList.take n) ++ .ofList (s.toList.drop n) := by
  rw [← String.ofList_append, List.take_append_drop, String.ofList_toList]

/-- The tail begins where the characters before it end. -/
theorem rawEndPos_take (k : Nat) (s : String) :
    (⟨tailStart k s⟩ : String.Pos.Raw) =
      (String.ofList (s.toList.take (s.toList.length - (k + 1)))).rawEndPos :=
  congrArg String.Pos.Raw.mk (tailStart_eq k s)

/-- The byte at which the tail begins lies between two characters. -/
theorem isValid_tailStart (k : Nat) (s : String) :
    String.Pos.Raw.IsValid s ⟨tailStart k s⟩ :=
  String.Pos.Raw.isValid_iff_exists_append.mpr
    ⟨_, _, eq_take_append_drop _ s, rawEndPos_take k s⟩

/-- The character with `k` characters after it, and those; the whole text if it has no more. -/
def tail (k : Nat) (s : String) : String :=
  (s.sliceFrom ⟨⟨tailStart k s⟩, isValid_tailStart k s⟩).copy

/-- The tail is what is left without the characters before it. -/
theorem toList_tail (k : Nat) (s : String) :
    (tail k s).toList = s.toList.drop (s.toList.length - (k + 1)) := by
  have hcut : String.Pos.Splits ⟨⟨tailStart k s⟩, isValid_tailStart k s⟩ _ _ :=
    ⟨eq_take_append_drop _ s, rawEndPos_take k s⟩
  rw [tail, (String.Pos.splits _).eq_right hcut, String.toList_ofList]

end Storefront.Text
