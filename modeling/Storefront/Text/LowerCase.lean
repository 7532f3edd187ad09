import Storefront.Text.Letters

/-!
# Lower case

The small letters of a text in any script. Every character has its own small letters, with one
exception: a capital sigma becomes a final sigma at the end of a word, that is, after a letter and
not before one, where marks and the like between letters are passed over.
-/

namespace Storefront.Text

/-- The character has a case. -/
def isCased (c : Char) : Bool :=
  isIn casedRanges c

/-- The character is passed over when the neighbours of a letter are looked for. -/
def isCaseIgnorable (c : Char) : Bool :=
  isIn caseIgnorableRanges c

/-- The small letter of a capital letter in a run, if the character is one. -/
def lowerInRun? (n : Nat) : Nat × Nat × Nat × Nat → Option Nat
  | (first, last, step, small) =>
      if first ≤ n && n ≤ last && (n - first) % step == 0 then some (small + (n - first)) else none

/-- The small letters of a character. Only the capital i with a dot has two. -/
def lowerChar (c : Char) : List Char :=
  let n := c.toNat
  if n < 0x80 then [c.toLower]
  else if n = 0x130 then ['i', Char.ofNat 0x307]
  else [((capitalRuns.findSome? (lowerInRun? n)).map Char.ofNat).getD c]

/-- The first character that is not passed over has a case. -/
def reachesCased (cs : List Char) : Bool :=
  (cs.dropWhile isCaseIgnorable).head?.any isCased

/-- Capital sigma. -/
def capitalSigma : Char := Char.ofNat 0x3A3

/-- A capital sigma ends a word if a letter comes before it and none after it. What comes before is
given in reverse order. -/
def lowerSigma (before after : List Char) : Char :=
  if reachesCased before && !reachesCased after then Char.ofNat 0x3C2 else Char.ofNat 0x3C3

/-- The small letters of characters, after others that are given in reverse order. -/
def lowerFrom (before : List Char) : List Char → List Char
  | [] => []
  | c :: after =>
      (if c = capitalSigma then [lowerSigma before after] else lowerChar c) ++
        lowerFrom (c :: before) after

/-- The text in small letters. -/
def lowerCase (s : String) : String :=
  String.ofList (lowerFrom [] s.toList)

end Storefront.Text
