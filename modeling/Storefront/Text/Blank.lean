/-!
# Blank characters

The characters that count as blank, and the removal of such characters from the ends of a text.
`isBlank` is the Unicode property `White_Space`, so the information separators U+001C to U+001F,
the zero width space U+200B, and the byte order mark U+FEFF are not blank. `dropEnds` removes a
class of characters from both ends; `trim` is its instance for blanks.
-/

namespace Storefront.Text

/-- A character with the Unicode property `White_Space`. -/
def isBlank (c : Char) : Bool :=
  let n := c.toNat
  (0x09 ≤ n && n ≤ 0x0D) || n == 0x20 || n == 0x85 || n == 0xA0 || n == 0x1680 ||
    (0x2000 ≤ n && n ≤ 0x200A) || n == 0x2028 || n == 0x2029 || n == 0x202F || n == 0x205F ||
    n == 0x3000

/-- Remove the longest tail made of characters of a class. -/
def dropTail (p : Char → Bool) (cs : List Char) : List Char :=
  (cs.reverse.dropWhile p).reverse

/-- Remove the longest head and the longest tail made of characters of a class. -/
def dropEnds (p : Char → Bool) (cs : List Char) : List Char :=
  dropTail p (cs.dropWhile p)

/-- The text without the blanks at its ends. -/
def trim (s : String) : String :=
  String.ofList (dropEnds isBlank s.toList)

/-- The text consists of blanks only. The empty text is blank. -/
def isBlankText (s : String) : Bool :=
  s.toList.all isBlank

end Storefront.Text
