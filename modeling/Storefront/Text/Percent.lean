import Storefront.Text.Numeral

/-!
# Percent encoding

A text written with unreserved characters only. ASCII letters and digits and the four characters
`-`, `_`, `.`, `~` stand for themselves; every other character is written as its UTF-8 bytes, each
as a percent sign and two hexadecimal digits. Reading accepts any text: a percent sign without two
digits after it stands for itself, and so does every other character.
-/

namespace Storefront.Text

/-- A character that stands for itself in percent encoding. -/
def isUnreserved (c : Char) : Bool :=
  c.isAlphanum || c == '-' || c == '_' || c == '.' || c == '~'

/-- A byte as a percent sign and two capital hexadecimal digits. -/
def percentByte (b : UInt8) : List Char :=
  ['%', (Nat.digitChar (b.toNat / 16)).toUpper, (Nat.digitChar (b.toNat % 16)).toUpper]

/-- One character with all its bytes written as digits. -/
def percentBytesOf (c : Char) : List Char :=
  (String.utf8EncodeChar c).flatMap percentByte

/-- Characters with those of a class written as digits and the others as they are. -/
def percentEscape (escaped : Char → Bool) (cs : List Char) : List Char :=
  cs.flatMap fun c ↦ if escaped c then percentBytesOf c else [c]

/-- One character in percent encoding. -/
def percentChar (c : Char) : List Char :=
  if isUnreserved c then [c] else percentBytesOf c

/-- A text in percent encoding. -/
def percentEncode (s : String) : String :=
  String.ofList (s.toList.flatMap percentChar)

/-- The bytes that a text in percent encoding stands for. -/
def percentBytes : List Char → List UInt8
  | [] => []
  | '%' :: a :: b :: rest =>
      match hexDigit? a, hexDigit? b with
      | some high, some low => UInt8.ofNat (16 * high + low) :: percentBytes rest
      | _, _ => 37 :: percentBytes (a :: b :: rest)
  | c :: rest => String.utf8EncodeChar c ++ percentBytes rest

/-- The text that bytes encode, if they are UTF-8. -/
def ofUtf8? (bytes : List UInt8) : Option String :=
  String.fromUTF8? bytes.toByteArray

/-- The text that a text in percent encoding stands for, if its bytes are UTF-8. -/
def percentDecode? (s : String) : Option String :=
  ofUtf8? (percentBytes s.toList)

/-- The UTF-8 bytes of a text. -/
def utf8 (s : String) : List UInt8 :=
  s.toList.flatMap String.utf8EncodeChar

end Storefront.Text
