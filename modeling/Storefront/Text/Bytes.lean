import Storefront.Text.Percent

/-!
# Texts as bytes

What bytes hold that should be a text in UTF-8. `characters` reads them from left to right and goes
on behind a byte that is part of no character, so nothing before or after such a byte is lost.
-/

namespace Storefront.Text

/-- The characters that bytes encode, with `none` for each byte that is part of no character. Of the
bytes at the start, so many belong to a character that has been read. -/
def characters : Nat → List UInt8 → List (Option Char)
  | _, [] => []
  | read + 1, _ :: rest => characters read rest
  | 0, b :: rest =>
      match (b :: rest.take 3).toByteArray.utf8DecodeChar? 0 with
      | some c => some c :: characters (c.utf8Size - 1) rest
      | none => none :: characters 0 rest

end Storefront.Text
