import Storefront.Text.Numeral

/-!
# JSON values and their text

The values that are written as JSON, and the one text of each value: no blanks, members in the
order in which they are given, and only those characters escaped that have to be. `Json.render`
gives the characters and `Json.text` the text.
-/

namespace Storefront

/-- A JSON value. Numbers are whole. -/
inductive Json where
  | null
  | bool (value : Bool)
  | int (value : Int)
  | str (text : String)
  | arr (items : List Json)
  | obj (members : List (String × Json))
  deriving Inhabited

namespace Json

/-- One character inside a JSON text literal. Quotes, backslashes, and controls are escaped, the
latter by a letter where there is one. -/
def escapeChar (c : Char) : List Char :=
  if c = '"' then ['\\', '"']
  else if c = '\\' then ['\\', '\\']
  else if c = '\n' then ['\\', 'n']
  else if c = '\r' then ['\\', 'r']
  else if c = '\t' then ['\\', 't']
  else if c.toNat = 8 then ['\\', 'b']
  else if c.toNat = 12 then ['\\', 'f']
  else if c.toNat < 32 then '\\' :: 'u' :: Text.padZeros 4 (Nat.toDigits 16 c.toNat)
  else [c]

/-- A text literal. -/
def renderText (s : String) : List Char :=
  '"' :: s.toList.flatMap escapeChar ++ ['"']

/-- An integer literal. -/
def renderInt (n : Int) : List Char :=
  if n < 0 then '-' :: Nat.toDigits 10 n.natAbs else Nat.toDigits 10 n.natAbs

mutual
/-- The characters of a value. -/
def render : Json → List Char
  | .null => ['n', 'u', 'l', 'l']
  | .bool true => ['t', 'r', 'u', 'e']
  | .bool false => ['f', 'a', 'l', 's', 'e']
  | .int n => renderInt n
  | .str s => renderText s
  | .arr items => '[' :: (renderItems items ++ [']'])
  | .obj members => '\x7b' :: (renderMembers members ++ ['\x7d'])

/-- The characters of the items of an array. -/
def renderItems : List Json → List Char
  | [] => []
  | item :: rest => render item ++ renderMoreItems rest

/-- The characters of the items after the first, each after a comma. -/
def renderMoreItems : List Json → List Char
  | [] => []
  | item :: rest => ',' :: (render item ++ renderMoreItems rest)

/-- The characters of the members of an object. -/
def renderMembers : List (String × Json) → List Char
  | [] => []
  | (name, value) :: rest =>
      renderText name ++ ':' :: (render value ++ renderMoreMembers rest)

/-- The characters of the members after the first, each after a comma. -/
def renderMoreMembers : List (String × Json) → List Char
  | [] => []
  | (name, value) :: rest =>
      ',' :: (renderText name ++ ':' :: (render value ++ renderMoreMembers rest))
end

/-- The text of a value. -/
def text (j : Json) : String :=
  String.ofList j.render

end Json

end Storefront
