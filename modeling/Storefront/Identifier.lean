import Storefront.Text.Blank
import Storefront.Text.Numeral

/-!
# Identifiers

Who orders, what is ordered, and which order it is. Users and products are named by arbitrary
texts. An order is named by a 128-bit number that is written as 32 lower-case hexadecimal digits in
five groups joined by hyphens, and read in that form, without hyphens, in braces, or after
`urn:uuid:`.
-/

namespace Storefront

/-- The name of a user. -/
structure UserId where
  text : String
  deriving DecidableEq

/-- A user name made of blanks only names nobody. -/
def UserId.isEmpty (user : UserId) : Bool :=
  Text.isBlankText user.text

/-- The name of a product. -/
structure ProductId where
  text : String
  deriving DecidableEq

/-- The number of an order. -/
structure OrderId where
  value : Nat
  lt : value < Nat.pow 2 128
  deriving DecidableEq

namespace OrderId

/-- The order number of a natural number, modulo 2^128. -/
def ofNat (n : Nat) : OrderId :=
  ⟨n % Nat.pow 2 128, Nat.mod_lt _ (by decide)⟩

/-- Split characters into groups of the given sizes; what is left over is the last group. -/
def groups : List Nat → List Char → List (List Char)
  | [], cs => [cs]
  | n :: sizes, cs => cs.take n :: groups sizes (cs.drop n)

/-- The sizes of the groups of digits that a hyphen follows. -/
def groupSizes : List Nat := [8, 4, 4, 4]

/-- Five groups of hexadecimal digits joined by hyphens. -/
def text (id : OrderId) : String :=
  String.ofList (['-'].intercalate
    (groups groupSizes (Text.padZeros 32 (Nat.toDigits 16 id.value))))

/-- Thirty-two hexadecimal digits. -/
def readPlain? (cs : List Char) : Option OrderId :=
  if cs.length = 32 then (Text.hexadecimal? cs).map ofNat else none

/-- Five groups of hexadecimal digits of the proper sizes, joined by hyphens. -/
def readHyphenated? (cs : List Char) : Option OrderId :=
  match groups [8, 1, 4, 1, 4, 1, 4, 1] cs with
  | [a, ['-'], b, ['-'], c, ['-'], d, ['-'], e] => readPlain? (a ++ b ++ c ++ d ++ e)
  | _ => none

/-- The scheme that may stand before a hyphenated number. -/
def scheme : List Char := "urn:uuid:".toList

/-- Read any of the four written forms. -/
def parse? (s : String) : Option OrderId :=
  let cs := s.toList
  if cs.length = 32 then readPlain? cs
  else if cs.length = 36 then readHyphenated? cs
  else if cs.length = 38 ∧ cs.head? = some '{' ∧ cs.getLast? = some '}' then
    readHyphenated? (cs.drop 1).dropLast
  else if cs.length = 45 ∧ (cs.take 9).map Char.toLower = scheme then
    readHyphenated? (cs.drop 9)
  else none

end OrderId

end Storefront
