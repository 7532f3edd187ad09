/-!
# Punycode

Texts in any script written with letters, digits, and hyphens alone. The characters of the first 128
come first, as they are; then, after a hyphen if there were any, come the others in ascending order
as the distances from one to the next. A distance is written in base 36 with digits that end
themselves: from which value on a digit is the last one depends on a bias that follows the size
of the distances before.
-/

namespace Storefront.Text.Punycode

/-- A digit of base 36: small letters, then decimal digits. -/
def digit (n : Nat) : Char :=
  if n < 26 then Char.ofNat (97 + n) else Char.ofNat (22 + n)

/-- Digits below the threshold of their place end a number. -/
def threshold (bias place : Nat) : Nat :=
  max 1 (min 26 (place - bias))

/-- A threshold is positive. -/
theorem threshold_pos (bias place : Nat) : 0 < threshold bias place := by
  unfold threshold
  omega

/-- The digits of a number from a place on. -/
def digits (bias place n : Nat) : List Char :=
  let t := threshold bias place
  if n < t then [digit n]
  else digit (t + (n - t) % (36 - t)) :: digits bias (place + 36) ((n - t) / (36 - t))
termination_by n
decreasing_by
  have := threshold_pos bias place
  have := Nat.div_le_self (n - threshold bias place) (36 - threshold bias place)
  omega

/-- The bias for distances of a size, counted up by 36 for each division that makes it small. -/
def biasOf (size count : Nat) : Nat :=
  if 455 < size then biasOf (size / 35) (count + 36) else count + 36 * size / (size + 38)
termination_by size
decreasing_by omega

/-- The bias after a distance, when a number of characters have been written. -/
def adapt (distance written : Nat) (isFirst : Bool) : Nat :=
  let size := if isFirst then distance / 700 else distance / 2
  biasOf (size + size / written) 0

/-- The state of writing: the digits so far, the distance since the last character, the bias, and
how many characters have been written. -/
structure Draft where
  out : List Char
  distance : Nat
  bias : Nat
  written : Nat

/-- Pass over one character of the text while all characters of one code are being written. -/
def pass (basic code : Nat) (d : Draft) (c : Char) : Draft :=
  if c.toNat < code then { d with distance := d.distance + 1 }
  else if c.toNat = code then
    { out := d.out ++ digits d.bias 36 d.distance
      distance := 0
      bias := adapt d.distance (d.written + 1) (d.written = basic)
      written := d.written + 1 }
  else d

/-- Write the characters of each of the codes, the first of which is at least `next`. -/
def writeAll (cs : List Char) (basic : Nat) : List Nat → Nat → Draft → Draft
  | [], _, d => d
  | code :: codes, next, d =>
      let d := { d with distance := d.distance + (code - next) * (d.written + 1) }
      let d := cs.foldl (pass basic code) d
      writeAll cs basic codes (code + 1) { d with distance := d.distance + 1 }

/-- A text in Punycode. -/
def encode (cs : List Char) : List Char :=
  let basic := cs.filter fun c ↦ c.toNat < 128
  let codes := ((cs.map Char.toNat).filter (128 ≤ ·)).mergeSort.eraseDups
  let written := writeAll cs basic.length codes 128 ⟨[], 0, 72, basic.length⟩
  (if basic.isEmpty then [] else basic ++ ['-']) ++ written.out

/-- The value of a digit of base 36. -/
def digitValue? (c : Char) : Option Nat :=
  if 'a' ≤ c ∧ c ≤ 'z' then some (c.toNat - 97)
  else if '0' ≤ c ∧ c ≤ '9' then some (c.toNat - 22)
  else none

/-- Read a number from a place on, where a digit has a weight, and what follows the number. -/
def number? (bias place weight : Nat) : List Char → Option (Nat × List Char)
  | [] => none
  | c :: rest => do
      let n ← digitValue? c
      let t := threshold bias place
      if n < t then some (n * weight, rest)
      else
        let (more, rest) ← number? bias (place + 36) (weight * (36 - t)) rest
        some (n * weight + more, rest)

/-- The character of a code, if there is one. -/
def char? (code : Nat) : Option Char :=
  if code.isValidChar then some (Char.ofNat code) else none

/-- Read at most so many distances, each of which says which character comes next and where it goes
among those so far. -/
def readAll (code place bias : Nat) : Nat → List Char → List Char → Option (List Char)
  | _, [], out => some out
  | 0, _ :: _, _ => none
  | count + 1, cs, out => do
      let (distance, rest) ← number? bias 36 1 cs
      let size := out.length + 1
      let bias := adapt distance size (place = 0)
      let code := code + (place + distance) / size
      let place := (place + distance) % size
      let c ← char? code
      readAll code (place + 1) bias count rest (out.take place ++ c :: out.drop place)

/-- The text that is written in Punycode, if it is. -/
def decode? (cs : List Char) : Option (List Char) :=
  let tail := (cs.reverse.takeWhile (· != '-')).reverse
  let head := cs.take (cs.length - tail.length - 1)
  let tail := if head.isEmpty then cs else tail
  readAll 128 0 72 tail.length tail head

end Storefront.Text.Punycode
