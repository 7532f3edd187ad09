/-!
# Pieces of a text

Cutting characters at a separator. `pieces` keeps every piece, empty ones included, so joining them
with the separator gives the characters back. `terminated` takes the separator as the end of a
piece and not as a gap between two, so nothing after the last one is no piece. `cutAt?` cuts once,
at the first occurrence.
-/

namespace Storefront.Text

/-- The pieces between separators; one empty piece when there are no characters. -/
def pieces (separator : Char) (cs : List Char) : List (List Char) :=
  cs.splitOn separator

/-- The pieces that a separator ends, and what follows the last one unless it is empty. -/
def terminated (separator : Char) (cs : List Char) : List (List Char) :=
  let all := pieces separator cs
  if all.getLast? = some [] then all.dropLast else all

/-- What stands before the first separator. -/
def before (separator : Char) (cs : List Char) : List Char :=
  cs.takeWhile (· != separator)

/-- What stands before and after the first separator, if there is one. -/
def cutAt? (separator : Char) (cs : List Char) : Option (List Char × List Char) :=
  match cs.dropWhile (· != separator) with
  | [] => none
  | _ :: after => some (before separator cs, after)

/-- Texts joined by a text. -/
def join (separator : String) (texts : List String) : String :=
  separator.intercalate texts

end Storefront.Text
