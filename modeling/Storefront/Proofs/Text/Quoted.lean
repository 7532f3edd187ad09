import Storefront.Proofs.Text.Numeral
import Storefront.Proofs.Text.Pieces
import Storefront.Text.Quoted

/-!
# Reading quoted text back

No two texts are quoted alike, `quote_injective`: the first character of a quoted text can be read
off, whether it stands for itself or is escaped, and so can the next one, `readQuoted_quoteChar`.
-/

namespace Storefront.Text

/-- The character that a letter after a backslash stands for, and what follows it. A number in
braces stands for the character with that number. -/
def readEscape : List Char → Option (Char × List Char)
  | [] => none
  | c :: rest =>
      if c = 'u' then do
        let (digits, rest) ← cutAt? '\x7d' (rest.drop 1)
        let n ← hexadecimal? digits
        return (Char.ofNat n, rest)
      else if c = 'n' then some ('\n', rest)
      else if c = 'r' then some ('\r', rest)
      else if c = 't' then some ('\t', rest)
      else if c = '0' then some (Char.ofNat 0, rest)
      else some (c, rest)

/-- The first character of a quoted text, and what follows it. -/
def readQuoted : List Char → Option (Char × List Char)
  | [] => none
  | c :: rest => if c = '\\' then readEscape rest else some (c, rest)

/-- A number in braces is read as the character with that number. -/
theorem readQuoted_hexDigits (c : Char) (rest : List Char) :
    readQuoted (['\\', 'u', '\x7b'] ++ hexDigits c.toNat ++ ['\x7d'] ++ rest) = some (c, rest) := by
  have hbrace : '\x7d' ∉ hexDigits c.toNat := by
    simpa [hexPadded, padZeros, hexDigits] using
      not_mem_hexPadded (c := '\x7d') rfl 0 c.toNat
  have hdigits : hexadecimal? (hexDigits c.toNat) = some c.toNat := by
    simpa [hexPadded, padZeros, hexDigits] using hexadecimal?_hexPadded 0 c.toNat
  have hshape : ['\\', 'u', '\x7b'] ++ hexDigits c.toNat ++ ['\x7d'] ++ rest =
      '\\' :: 'u' :: '\x7b' :: (hexDigits c.toNat ++ '\x7d' :: rest) := by simp
  rw [hshape]
  simp [readQuoted, readEscape, cutAt?_append hbrace, hdigits]

/-- The first character of a quoted text is read off. -/
theorem readQuoted_quoteChar (c : Char) (rest : List Char) :
    readQuoted (quoteChar c ++ rest) = some (c, rest) := by
  unfold quoteChar
  split_ifs with hquote hbackslash hnewline hreturn htab hzero hhidden
  · rw [hquote]
    rfl
  · rw [hbackslash]
    rfl
  · rw [hnewline]
    rfl
  · rw [hreturn]
    rfl
  · rw [htab]
    rfl
  · have hnull : c = Char.ofNat 0 := by rw [← hzero, Char.ofNat_toNat]
    rw [hnull]
    rfl
  · exact readQuoted_hexDigits c rest
  · simp [readQuoted, hbackslash]

/-- Different characters make different quoted texts. -/
theorem flatMap_quoteChar_injective : Function.Injective (List.flatMap quoteChar) := by
  have hne : ∀ (c : Char) (cs : List Char), quoteChar c ++ cs.flatMap quoteChar ≠ [] :=
    fun c cs hnil ↦ by
      have hread := readQuoted_quoteChar c (cs.flatMap quoteChar)
      rw [hnil] at hread
      cases hread
  intro cs ds h
  induction cs generalizing ds with
  | nil =>
      cases ds with
      | nil => rfl
      | cons d ds => exact absurd h.symm (hne d ds)
  | cons c cs ih =>
      cases ds with
      | nil => exact absurd h (hne c cs)
      | cons d ds =>
          have hread := readQuoted_quoteChar c (cs.flatMap quoteChar)
          rw [← List.flatMap_cons, h, List.flatMap_cons, readQuoted_quoteChar, Option.some_inj,
            Prod.mk.injEq] at hread
          rw [hread.1, ih hread.2.symm]

/-- Different texts are quoted differently. -/
theorem quote_injective : Function.Injective quote := by
  intro s t h
  have hchars := (List.cons.inj (String.ofList_inj.mp h)).2
  exact String.toList_injective (flatMap_quoteChar_injective (List.append_cancel_right hchars))

end Storefront.Text
