import Storefront.Proofs.Text.Numeral
import Storefront.Text.Percent

/-!
# Reading percent encoding back

A text in percent encoding is read as the text it was made from, `percentDecode?_percentEncode`. The
proof is by characters: what one character is written as stands for the bytes of that character,
whatever follows. What is written is made of unreserved characters and percent signs only.
-/

namespace Storefront.Text

/-- The bytes of a text are those that it is kept as. -/
theorem toByteArray_utf8 (s : String) : (utf8 s).toByteArray = s.toByteArray := by
  rw [← String.ofList_toList (s := s), String.toByteArray_ofList]
  simp [utf8, List.utf8Encode]

/-- The bytes of a text encode the text. -/
theorem ofUtf8?_utf8 (s : String) : ofUtf8? (utf8 s) = some s := by
  have hvalid : (utf8 s).toByteArray.IsValidUTF8 := toByteArray_utf8 s ▸ s.isValidUTF8
  rw [ofUtf8?, String.fromUTF8?, dif_pos hvalid, Option.some_inj]
  exact String.toByteArray_inj.mp (toByteArray_utf8 s)

/-- Bytes that encode a text are the bytes of the text. -/
theorem utf8_of_ofUtf8? {bytes : List UInt8} {s : String} (h : ofUtf8? bytes = some s) :
    utf8 s = bytes := by
  unfold ofUtf8? String.fromUTF8? at h
  split at h
  · cases h
    exact List.toByteArray_inj.mp (toByteArray_utf8 _)
  · cases h

/-- The three characters of a byte stand for the byte. -/
theorem percentBytes_percentByte (b : UInt8) (rest : List Char) :
    percentBytes (percentByte b ++ rest) = b :: percentBytes rest := by
  have hhigh : b.toNat / 16 < 16 := Nat.div_lt_of_lt_mul b.toNat_lt
  have hlow : b.toNat % 16 < 16 := Nat.mod_lt _ (by decide)
  have hvalue : UInt8.ofNat (16 * (b.toNat / 16) + b.toNat % 16) = b := by
    rw [Nat.div_add_mod, UInt8.ofNat_toNat]
  show percentBytes ('%' :: _ :: _ :: rest) = _
  rw [percentBytes, hexDigit?_toUpper hhigh, hexDigit?_toUpper hlow]
  simp only [hvalue]

/-- Bytes one after the other stand for themselves. -/
theorem percentBytes_flatMap_percentByte (bytes : List UInt8) (rest : List Char) :
    percentBytes (bytes.flatMap percentByte ++ rest) = bytes ++ percentBytes rest := by
  induction bytes with
  | nil => rfl
  | cons b bytes ih =>
      rw [List.flatMap_cons, List.append_assoc, percentBytes_percentByte, ih, List.cons_append]

/-- A character other than a percent sign stands for itself. -/
theorem percentBytes_cons_of_ne {c : Char} (h : c ≠ '%') (rest : List Char) :
    percentBytes (c :: rest) = String.utf8EncodeChar c ++ percentBytes rest := by
  rw [percentBytes]
  rintro a b cs rfl
  exact absurd rfl h

/-- What a character is written as stands for its bytes. -/
theorem percentBytes_percentChar (c : Char) (rest : List Char) :
    percentBytes (percentChar c ++ rest) = String.utf8EncodeChar c ++ percentBytes rest := by
  unfold percentChar
  split
  · rename_i hunreserved
    have hne : c ≠ '%' := by
      rintro rfl
      cases hunreserved
    exact percentBytes_cons_of_ne hne rest
  · exact percentBytes_flatMap_percentByte _ rest

/-- What characters are written as stands for their bytes. -/
theorem percentBytes_flatMap_percentChar (cs : List Char) :
    percentBytes (cs.flatMap percentChar) = cs.flatMap String.utf8EncodeChar := by
  induction cs with
  | nil => rfl
  | cons c cs ih => rw [List.flatMap_cons, percentBytes_percentChar, ih, List.flatMap_cons]

/-- A text in percent encoding is read as the text it was made from. -/
theorem percentDecode?_percentEncode (s : String) : percentDecode? (percentEncode s) = some s := by
  have hbytes : percentBytes (percentEncode s).toList = utf8 s := by
    rw [percentEncode, String.toList_ofList, percentBytes_flatMap_percentChar]
    rfl
  rw [percentDecode?, hbytes, ofUtf8?_utf8]

/-- A character that percent encoding makes use of. -/
def isPercentChar (c : Char) : Bool :=
  isUnreserved c || c == '%'

/-- Capital digits are unreserved. -/
theorem isUnreserved_toUpper_digitChar {n : Nat} (h : n < 16) :
    isUnreserved n.digitChar.toUpper = true := by
  interval_cases n <;> rfl

/-- What one character is written as is made of the characters of the encoding. -/
theorem isPercentChar_of_mem_percentChar {c d : Char} (h : d ∈ percentChar c) :
    isPercentChar d = true := by
  unfold percentChar at h
  split at h
  · rename_i hunreserved
    rw [List.mem_singleton.mp h, isPercentChar, hunreserved]
    rfl
  · obtain ⟨b, -, hd⟩ := List.mem_flatMap.mp h
    have hhigh : b.toNat / 16 < 16 := Nat.div_lt_of_lt_mul b.toNat_lt
    have hlow : b.toNat % 16 < 16 := Nat.mod_lt _ (by decide)
    simp only [percentByte, List.mem_cons, List.not_mem_nil, or_false] at hd
    rcases hd with rfl | rfl | rfl
    · rfl
    · simp [isPercentChar, isUnreserved_toUpper_digitChar hhigh]
    · simp [isPercentChar, isUnreserved_toUpper_digitChar hlow]

/-- What is written is made of the characters of the encoding. -/
theorem isPercentChar_of_mem_percentEncode {s : String} {c : Char}
    (h : c ∈ (percentEncode s).toList) : isPercentChar c = true := by
  rw [percentEncode, String.toList_ofList] at h
  obtain ⟨d, -, hc⟩ := List.mem_flatMap.mp h
  exact isPercentChar_of_mem_percentChar hc

/-- Nothing that is not a character of the encoding is written. -/
theorem not_mem_percentEncode {c : Char} (hc : isPercentChar c = false) (s : String) :
    c ∉ (percentEncode s).toList := by
  intro h
  rw [isPercentChar_of_mem_percentEncode h] at hc
  cases hc

end Storefront.Text
