import Mathlib
import Storefront.Binary64
import Storefront.Proofs.Text.Numeral

/-!
# The layout of numbers

A number is kept as a word with a bit for its sign, eleven bits for an exponent, and 52 bits for a
mantissa. `Binary64.parts` takes such a word apart, and comparisons take it apart in their own way:
`unpack_eq` says that the two agree, so that a comparison is one of parts, `lt_iff_compare`. In the
other direction `parts_withSign` says which parts a number has that is made from a sign and bits.
There is one not-a-number, `eq_nan_of_parts`, so no two numbers are written alike, `hex_injective`.
-/

namespace Storefront.Binary64

open Float.Model Float.Model.UnpackedFloat

/-- The sign of a number. -/
def signOf (negative : Bool) : Sign :=
  if negative then .negative else .positive

/-- A number that is split up, in the form in which comparisons take it. -/
def Parts.unpacked : Parts → UnpackedFloat
  | .nan => .notANumber
  | .infinite negative => .infinity (signOf negative)
  | .finite negative mantissa exponent =>
      if h : 0 < mantissa then .finite (signOf negative) mantissa exponent h
      else .zero (signOf negative)

section

variable (b : BitVec Format.binary64.numBits)

/-- The bits of the exponent. -/
theorem toNat_unpackExponent : (unpackExponent b).toNat = b.toNat / 2 ^ 52 % 2 ^ 11 := by
  simp [unpackExponent, BitVec.extractLsb, Nat.shiftRight_eq_div_pow]

/-- The bits of the mantissa. -/
theorem toNat_unpackMantissa : (unpackMantissa b).toNat = b.toNat % 2 ^ 52 := by
  simp [unpackMantissa, BitVec.extractLsb]

/-- The bit of the sign. -/
theorem toNat_unpackSign : (unpackSign b).toNat = b.toNat / 2 ^ 63 % 2 := by
  simp [unpackSign, BitVec.extractLsb, Nat.shiftRight_eq_div_pow]

/-- A number is negative if its first bit is set. -/
theorem ofBitVec_unpackSign :
    Sign.ofBitVec (unpackSign b) = signOf (decide (2 ^ 63 ≤ b.toNat)) := by
  have hb : b.toNat < 2 ^ 64 := b.isLt
  have hbit := toNat_unpackSign b
  have hzero : unpackSign b = 0#1 ↔ ¬2 ^ 63 ≤ b.toNat := by
    rw [← BitVec.toNat_inj, hbit, BitVec.toNat_ofNat]
    omega
  unfold Sign.ofBitVec signOf
  by_cases h : 2 ^ 63 ≤ b.toNat
  · rw [if_neg (by simpa [hzero] using h), if_pos (decide_eq_true h)]
  · rw [if_pos (hzero.mpr h), if_neg (by simpa using h)]

end

/-- A word that is split up. -/
def partsOf (bits : Nat) : Parts :=
  let negative := decide (2 ^ 63 ≤ bits)
  let field : Nat := bits / 2 ^ 52 % 2 ^ 11
  let fraction := bits % 2 ^ 52
  if field = 2047 then if fraction = 0 then .infinite negative else .nan
  else if field = 0 then .finite negative fraction (-1074)
  else .finite negative (2 ^ 52 + fraction) ((field : Int) - 1075)

/-- A number is split up as its word is. -/
theorem parts_eq (x : Float) : parts x = partsOf x.toBits.toNat :=
  rfl

/-- A word is unpacked into its parts. -/
theorem unpack_eq (b : BitVec Format.binary64.numBits) :
    UnpackedFloat.unpack .binary64 b = (partsOf b.toNat).unpacked := by
  have hfull : unpackExponent b = -1#_ ↔ b.toNat / 2 ^ 52 % 2 ^ 11 = 2047 := by
    rw [← BitVec.toNat_inj, toNat_unpackExponent]
    rfl
  have hempty : unpackExponent b = 0#_ ↔ b.toNat / 2 ^ 52 % 2 ^ 11 = 0 := by
    rw [← BitVec.toNat_inj, toNat_unpackExponent]
    rfl
  have hzero : unpackMantissa b = 0#_ ↔ b.toNat % 2 ^ 52 = 0 := by
    rw [← BitVec.toNat_inj, toNat_unpackMantissa]
    rfl
  have hbias : (Format.binary64.exponentBias : Int) = 1023 := rfl
  have hwhole : (1#1 ++ unpackMantissa b).toNat = 2 ^ 52 + b.toNat % 2 ^ 52 := by
    rw [BitVec.toNat_append, ← Nat.shiftLeft_add_eq_or_of_lt (unpackMantissa b).isLt,
      toNat_unpackMantissa]
    rfl
  unfold UnpackedFloat.unpack partsOf
  simp only [hfull, hempty, hzero, ofBitVec_unpackSign]
  split
  · split <;> rfl
  · split
    · split
      · rename_i h
        rw [Parts.unpacked, dif_neg (by omega)]
      · rename_i h
        rw [Parts.unpacked, dif_pos (by omega)]
        simp only [toNat_unpackExponent, toNat_unpackMantissa, *]
        rfl
    · rw [Parts.unpacked, dif_pos (by omega)]
      simp [toNat_unpackExponent, hbias, hwhole]

/-- The part of a word that is its sign. -/
def signBit (negative : Bool) : Nat :=
  if negative then 2 ^ 63 else 0

/-- Sign, exponent, and mantissa are put together. -/
theorem toNat_packComponents (negative : Bool) (exponent : BitVec 11) (mantissa : BitVec 52) :
    (packComponents .binary64 (signOf negative) exponent mantissa).toNat =
      signBit negative + exponent.toNat * 2 ^ 52 + mantissa.toNat := by
  have hbit : (signOf negative).toBitVec.toNat = if negative then 1 else 0 := by
    cases negative <;> rfl
  unfold packComponents
  rw [BitVec.toNat_append, BitVec.toNat_append, ← Nat.shiftLeft_add_eq_or_of_lt mantissa.isLt,
    ← Nat.shiftLeft_add_eq_or_of_lt exponent.isLt, hbit, Nat.shiftLeft_eq, Nat.shiftLeft_eq]
  cases negative with
  | true =>
      simp only [signBit, if_true]
      omega
  | false =>
      simp only [signBit, Bool.false_eq_true, if_false]
      omega

/-- The word of an infinite number. -/
theorem toNat_pack_infinite (negative : Bool) :
    (UnpackedFloat.pack .binary64 (Parts.infinite negative).unpacked).toNat =
      signBit negative + 2047 * 2 ^ 52 := by
  cases negative <;> rfl

/-- The word of a number that is too small to have its first bit left out. -/
theorem toNat_pack_small (negative : Bool) {mantissa : Nat} (h : mantissa < 2 ^ 52) :
    (UnpackedFloat.pack .binary64 (Parts.finite negative mantissa (-1074)).unpacked).toNat =
      signBit negative + mantissa := by
  rcases Nat.eq_zero_or_pos mantissa with rfl | hpos
  · cases negative <;> rfl
  · rw [Parts.unpacked, dif_pos hpos]
    have hlog : mantissa.log2 < 52 := (Nat.log2_lt (by omega)).mpr h
    have hshort : ¬mantissa.log2 + 1 = Format.binary64.mantissaBits := by
      change ¬mantissa.log2 + 1 = 53
      omega
    have hfits : ¬2 ^ Format.binary64.exponentBits ≤
        (-1074 + (Format.binary64.exponentBias : Int) +
          (Format.binary64.mantissaBitsWithoutImplicit : Int)).toNat + 1 := by decide
    simp only [UnpackedFloat.pack, hshort, hfits, if_false, toNat_packComponents,
      BitVec.toNat_ofNat]
    omega

/-- The word of a number whose first bit is left out. -/
theorem toNat_pack_full (negative : Bool) {mantissa field : Nat} (hlow : 2 ^ 52 ≤ mantissa)
    (hhigh : mantissa < 2 ^ 53) (hpos : 0 < field) (hfield : field < 2047) :
    (UnpackedFloat.pack .binary64
      (Parts.finite negative mantissa ((field : Int) - 1075)).unpacked).toNat =
      signBit negative + field * 2 ^ 52 + (mantissa - 2 ^ 52) := by
  rw [Parts.unpacked, dif_pos (by omega)]
  have hlog : mantissa.log2 + 1 = Format.binary64.mantissaBits := by
    change mantissa.log2 + 1 = 53
    have hle : 52 ≤ mantissa.log2 := (Nat.le_log2 (by omega)).mpr hlow
    have hlt : mantissa.log2 < 53 := (Nat.log2_lt (by omega)).mpr hhigh
    omega
  have hexponent : ((field : Int) - 1075 + (Format.binary64.exponentBias : Int) +
      (Format.binary64.mantissaBitsWithoutImplicit : Int)).toNat = field := by
    change ((field : Int) - 1075 + 1023 + 52).toNat = field
    omega
  have hfits : ¬2 ^ Format.binary64.exponentBits ≤ field + 1 := by
    change ¬2 ^ 11 ≤ field + 1
    omega
  simp only [UnpackedFloat.pack, hlog, hexponent, hfits, if_false, if_true, toNat_packComponents,
    BitVec.toNat_ofNat]
  omega

/-- A word that is not one for a not-a-number is put together from its parts. -/
theorem toNat_pack_partsOf {bits : Nat} (hbits : bits < 2 ^ 64) (hnan : partsOf bits ≠ .nan) :
    (UnpackedFloat.pack .binary64 (partsOf bits).unpacked).toNat = bits := by
  have hsign : signBit (decide (2 ^ 63 ≤ bits)) = bits / 2 ^ 63 * 2 ^ 63 := by
    unfold signBit
    by_cases h : 2 ^ 63 ≤ bits
    · rw [if_pos (decide_eq_true h)]
      omega
    · rw [if_neg (by simpa using h)]
      omega
  unfold partsOf at *
  dsimp only at *
  split at hnan
  · rename_i hfield
    split at hnan
    · rename_i hzero
      rw [if_pos hfield, if_pos hzero, toNat_pack_infinite, hsign]
      omega
    · exact absurd rfl hnan
  · rename_i hfield
    rw [if_neg hfield]
    split
    · rename_i hempty
      rw [toNat_pack_small _ (by omega), hsign]
      omega
    · rename_i hfull
      rw [toNat_pack_full _ (by omega) (by omega) (by omega) (by omega), hsign]
      omega

/-- A word that is not one for a not-a-number is kept. -/
theorem toBits_ofBits {bits : UInt64} (hnan : partsOf bits.toNat ≠ .nan) :
    (Float.ofBits bits).toBits = bits := by
  have hpack := toNat_pack_partsOf bits.toNat_lt hnan
  have hunpack : UnpackedFloat.unpack .binary64 bits.toBitVec = (partsOf bits.toNat).unpacked :=
    unpack_eq bits.toBitVec
  rw [← hunpack] at hpack
  exact UInt64.toNat_inj.mp hpack

/-- A number is determined by its word. -/
theorem toBits_injective : Function.Injective Float.toBits := by
  rintro ⟨⟨bits, hvalid⟩⟩ ⟨⟨other, hother⟩⟩ h
  obtain rfl : bits = other := h
  rfl

/-- There is only one not-a-number. -/
theorem eq_nan_of_parts {x : Float} (h : parts x = .nan) : x = nan := by
  have hbits : ∀ y : Float, parts y = .nan → y.toBits.toBitVec = packedNaN .binary64 := by
    intro y hy
    have hfull : y.toBits.toNat / 2 ^ 52 % 2 ^ 11 = 2047 ∧ y.toBits.toNat % 2 ^ 52 ≠ 0 := by
      rw [parts_eq, partsOf] at hy
      split at hy
      · split at hy
        · cases hy
        · exact ⟨‹_›, ‹_›⟩
      · split at hy <;> cases hy
    refine y.toModel.valid.eq_packedNaN ?_ ?_
    · rw [← BitVec.toNat_inj, toNat_unpackExponent]
      exact hfull.1
    · rw [Ne, ← BitVec.toNat_inj, toNat_unpackMantissa]
      exact hfull.2
  have hnan : parts nan = .nan := rfl
  exact toBits_injective (UInt64.toBitVec_inj.mp ((hbits x h).trans (hbits nan hnan).symm))

/-- A number is the one that its word stands for. -/
theorem ofBits_toBits (x : Float) : Float.ofBits x.toBits = x := by
  by_cases hnan : parts x = .nan
  · rw [eq_nan_of_parts hnan]
    rfl
  · exact toBits_injective (toBits_ofBits hnan)

/-- A number is written by its word. -/
theorem hex_eq (x : Float) : hex x = Text.hexPadded 16 x.toBits.toNat := by
  unfold hex
  split
  · rename_i hnan
    rw [eq_nan_of_parts hnan]
  · rfl

/-- A number is read as it is written. -/
theorem ofBits_hex (x : Float) :
    Float.ofBits (UInt64.ofNat ((Text.hexadecimal? (hex x).toList).getD 0)) = x := by
  rw [hex_eq, Text.hexadecimal?_hexPadded, Option.getD_some, UInt64.ofNat_toNat, ofBits_toBits]

/-- A number is written like no other number. -/
theorem hex_injective : Function.Injective hex := by
  intro x y h
  rw [← ofBits_hex x, h, ofBits_hex]

/-- A number with a sign and bits for its size is split up as those bits are. -/
theorem parts_withSign (negative : Bool) {magnitude : Nat} (h : magnitude ≤ 2047 * 2 ^ 52) :
    parts (withSign negative magnitude) =
      if magnitude = 2047 * 2 ^ 52 then .infinite negative
      else if magnitude < 2 ^ 52 then .finite negative magnitude (-1074)
      else .finite negative (2 ^ 52 + magnitude % 2 ^ 52) ((magnitude / 2 ^ 52 : Nat) - 1075) := by
  have hbits : (if negative then Nat.pow 2 63 + magnitude else magnitude) =
      signBit negative + magnitude := by
    cases negative <;> simp [signBit]
  have hword : (UInt64.ofNat (signBit negative + magnitude)).toNat =
      signBit negative + magnitude := by
    rw [UInt64.toNat_ofNat_of_lt']
    unfold signBit UInt64.size
    split <;> omega
  have hsign : decide (2 ^ 63 ≤ signBit negative + magnitude) = negative := by
    cases negative with
    | true => exact decide_eq_true (Nat.le_add_right _ _)
    | false =>
        have hzero : signBit false = 0 := rfl
        exact decide_eq_false (by omega)
  have hfield : (signBit negative + magnitude) / 2 ^ 52 % 2 ^ 11 = magnitude / 2 ^ 52 := by
    unfold signBit
    split <;> omega
  have hfraction : (signBit negative + magnitude) % 2 ^ 52 = magnitude % 2 ^ 52 := by
    unfold signBit
    split <;> omega
  have hpattern : partsOf (signBit negative + magnitude) =
      if magnitude = 2047 * 2 ^ 52 then .infinite negative
      else if magnitude < 2 ^ 52 then .finite negative magnitude (-1074)
      else .finite negative (2 ^ 52 + magnitude % 2 ^ 52) ((magnitude / 2 ^ 52 : Nat) - 1075) := by
    unfold partsOf
    simp only [hsign, hfield, hfraction]
    split
    · rw [if_pos (by omega), if_pos (by omega)]
    · rw [if_neg (by omega : ¬magnitude = 2047 * 2 ^ 52)]
      split
      · rw [if_pos (by omega), Nat.mod_eq_of_lt (by omega)]
      · rw [if_neg (by omega)]
  have hnan : partsOf (UInt64.ofNat (signBit negative + magnitude)).toNat ≠ .nan := by
    rw [hword, hpattern]
    split
    · nofun
    · split <;> nofun
  rw [withSign, hbits, parts_eq, toBits_ofBits hnan, hword, hpattern]

/-- Zero with a sign. -/
theorem parts_withSign_zero (negative : Bool) :
    parts (withSign negative 0) = .finite negative 0 (-1074) := by
  rw [parts_withSign negative (by omega), if_neg (by omega), if_pos (by omega)]

/-- The bits of an infinite number. -/
theorem parts_withSign_infinite (negative : Bool) :
    parts (withSign negative (2047 * 2 ^ 52)) = .infinite negative := by
  rw [parts_withSign negative (Nat.le_refl _), if_pos rfl]

/-- A number is a not-a-number exactly if it is split up as one. -/
theorem isNaN_iff (x : Float) : x.isNaN = true ↔ parts x = .nan := by
  have hx : x.toModel.unpack = (parts x).unpacked := unpack_eq _
  change x.toModel.unpack.isNaN = true ↔ _
  rw [hx]
  cases parts x with
  | nan => exact iff_of_true rfl rfl
  | infinite negative => exact iff_of_false nofun nofun
  | finite negative mantissa exponent =>
      refine iff_of_false ?_ nofun
      rw [Parts.unpacked]
      split
      · exact Bool.false_ne_true
      · exact Bool.false_ne_true

/-- Comparisons look at the parts of numbers. -/
theorem lt_iff_compare (x y : Float) :
    x < y ↔ (parts x).unpacked.compare (parts y).unpacked = some .lt := by
  have hx : x.toModel.unpack = (parts x).unpacked := unpack_eq _
  have hy : y.toModel.unpack = (parts y).unpacked := unpack_eq _
  rw [← hx, ← hy]
  change Float.lt x y = true ↔ _
  unfold Float.lt
  rw [decide_eq_true_eq]
  change (x.toModel.unpack.compare y.toModel.unpack == some .lt) = true ↔ _
  rw [beq_iff_eq]

/-- `IsSize mantissa exponent` says that a number has 53 bits or fewer and its exponent is in range,
and that it has fewer bits only if the exponent is the least one. -/
structure IsSize (mantissa : Nat) (exponent : Int) : Prop where
  mantissa_lt : mantissa < 2 ^ 53
  le_exponent : -1074 ≤ exponent
  exponent_le : exponent ≤ 971
  full : exponent = -1074 ∨ 2 ^ 52 ≤ mantissa

/-- Every finite number is split up in this way. -/
theorem IsSize.of_parts {x : Float} {negative : Bool} {mantissa : Nat} {exponent : Int}
    (h : parts x = .finite negative mantissa exponent) : IsSize mantissa exponent := by
  rw [parts_eq] at h
  unfold partsOf at h
  dsimp only at h
  split at h
  · split at h <;> cases h
  · split at h
    · cases h
      exact ⟨by omega, by omega, by omega, .inl rfl⟩
    · cases h
      exact ⟨by omega, by omega, by omega, .inr (by omega)⟩

end Storefront.Binary64
