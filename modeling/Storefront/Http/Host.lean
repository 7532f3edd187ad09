import Storefront.Text.Hidden
import Storefront.Text.LowerCase
import Storefront.Text.Percent
import Storefront.Text.Pieces
import Storefront.Text.Punycode

/-!
# Hosts

The machine that an address names. A name whose last part is a number is a number as a whole: up to
four parts in base 8, 10, or 16, of which the last fills what the others leave. Eight groups between
brackets are a longer number, with two colons in the place of some groups that are zero. All
other names are written in small letters of the first 128 characters.
-/

namespace Storefront

/-- A machine, by its name, by a number of 32 bits, or by eight groups of 16 bits. -/
inductive Host where
  | name (text : String)
  | number (value : Nat)
  | groups (values : List Nat)
  deriving DecidableEq

namespace Host

/-- The value of an octal digit. -/
def octalDigit? (c : Char) : Option Nat :=
  (Text.digit? c).filter (· < 8)

/-- The number that one part of a name writes: hexadecimal after `0x`, octal after `0`, or
decimal. -/
def partNumber? : List Char → Option Nat
  | ['0', 'x'] => some 0
  | '0' :: 'x' :: digits => Text.hexadecimal? digits
  | '0' :: d :: digits => Text.foldDigits octalDigit? 8 0 (d :: digits)
  | digits => Text.decimal? digits

/-- The parts of a name between dots, without an empty one at the end. -/
def parts (name : List Char) : List (List Char) :=
  let all := Text.pieces '.' name
  if 1 < all.length ∧ all.getLast? = some [] then all.dropLast else all

/-- The last part is a number, or would be one but for a digit out of its base. -/
def endsInNumber (name : List Char) : Bool :=
  (parts name).getLast?.any fun part ↦
    (!part.isEmpty && part.all Char.isDigit) || (partNumber? part).isSome

/-- The value of numbers of which the last fills what the others leave of 32 bits. -/
def joinNumbers? : Nat → List Nat → Option Nat
  | _, [] => none
  | room, [last] => if last < Nat.pow 256 room then some last else none
  | room, n :: rest =>
      if n < 256 then (joinNumbers? (room - 1) rest).map (n * Nat.pow 256 (room - 1) + ·) else none

/-- The host that a name with a number at its end stands for. -/
def ofNumbers? (name : List Char) : Option Host := do
  let numbers ← (parts name).mapM partNumber?
  if numbers.length ≤ 4 then (joinNumbers? 4 numbers).map .number else none

/-- A group of at most four hexadecimal digits. -/
def group? (cs : List Char) : Option Nat :=
  if cs.length ≤ 4 then Text.hexadecimal? cs else none

/-- A number below 256 without superfluous zeros. -/
def byte? (cs : List Char) : Option Nat := do
  let n ← Text.decimal? cs
  if n < 256 ∧ (cs.length = 1 ∨ cs.head? ≠ some '0') then some n else none

/-- Two groups that are written as four numbers with dots. -/
def dotted? (cs : List Char) : Option (List Nat) := do
  match ← (Text.pieces '.' cs).mapM byte? with
  | [a, b, c, d] => some [a * 256 + b, c * 256 + d]
  | _ => none

/-- The groups between colons. The last one may be two groups with dots, if nothing follows. -/
def groupsFrom? (isLast : Bool) : List (List Char) → Option (List Nat)
  | [] => some []
  | [cs] => if isLast && cs.contains '.' then dotted? cs else (group? cs).map ([·])
  | cs :: rest => do
      let n ← group? cs
      let more ← groupsFrom? isLast rest
      some (n :: more)

/-- The groups of a text, none if it is empty. -/
def groupsOf? (isLast : Bool) (cs : List Char) : Option (List Nat) :=
  if cs.isEmpty then some [] else groupsFrom? isLast (Text.pieces ':' cs)

/-- What stands before and after the first two colons in a row. -/
def cutAtGap? : List Char → Option (List Char × List Char)
  | ':' :: ':' :: rest => some ([], rest)
  | c :: rest => (cutAtGap? rest).map fun (before, after) ↦ (c :: before, after)
  | [] => none

/-- The host that eight groups name. Two colons in a row stand for one group or more. -/
def ofGroups? (cs : List Char) : Option Host :=
  match cutAtGap? cs with
  | none => do
      let groups ← groupsOf? true cs
      if groups.length = 8 then some (.groups groups) else none
  | some (before, after) => do
      let first ← groupsOf? false before
      let last ← groupsOf? true after
      let missing := 8 - (first.length + last.length)
      if 0 < missing then some (.groups (first ++ List.replicate missing 0 ++ last)) else none

/-- A character that no host has, since it delimits the host or is blank. -/
def isDelimiter (c : Char) : Bool :=
  " \t\n\r#/:<>?@[\\]^|".contains c || c.toNat = 0

/-- A character that no name has. -/
def isForbidden (c : Char) : Bool :=
  isDelimiter c || c = '%' || c.toNat < 32 || c.toNat = 127

/-- Characters that a name may hold and that leave no trace in it. -/
def isIgnored (c : Char) : Bool :=
  Text.isIn [(0xAD, 0xAD), (0x34F, 0x34F), (0x180B, 0x180D), (0x180F, 0x180F), (0x200B, 0x200B),
    (0x2060, 0x2060), (0x2064, 0x2064), (0xFE00, 0xFE0F), (0xFEFF, 0xFEFF)] c

/-- The form in which a character is part of a name: small, not wide, a dot for each full stop.
Hidden characters other than marks are not part of any name. -/
def nameChar? (c : Char) : Option (List Char) :=
  let n := c.toNat
  if n < 0x80 then some [c.toLower]
  else if 0xFF01 ≤ n && n ≤ 0xFF5E then some [(Char.ofNat (n - 0xFEE0)).toLower]
  else if n = 0x3002 || n = 0xFF61 then some ['.']
  else if isIgnored c then some []
  else if Text.isHidden c && !Text.isCaseIgnorable c then none
  else some (Text.lowerChar c)

/-- The characters before the Punycode of a label. -/
def punycodeMark : List Char := ['x', 'n', '-', '-']

/-- The characters stand for themselves in a name, and some of them are beyond the first 128. -/
def isForeign (cs : List Char) : Bool :=
  (cs.all fun c ↦ nameChar? c == some [c]) && cs.any fun c ↦ 128 ≤ c.toNat

/-- One label of a name in the first 128 characters. A label that says that it is in Punycode has
to be. -/
def label? (cs : List Char) : Option (List Char) :=
  if punycodeMark.isPrefixOf cs then
    if (Text.Punycode.decode? (cs.drop 4)).any isForeign then some cs else none
  else if cs.all fun c ↦ c.toNat < 128 then some cs
  else some (punycodeMark ++ Text.Punycode.encode cs)

/-- The written form of a name. -/
def canonicalName? (cs : List Char) : Option (List Char) := do
  let mapped ← cs.mapM nameChar?
  let labels ← (Text.pieces '.' mapped.flatten).mapM label?
  let name := ['.'].intercalate labels
  if name.isEmpty || name.any isForbidden then none else some name

/-- The host that a text names, with percent encoding undone. -/
def ofName? (cs : List Char) : Option Host := do
  let decoded ← Text.ofUtf8? (Text.percentBytes cs)
  let name ← canonicalName? decoded.toList
  if endsInNumber name then ofNumbers? name else some (.name (String.ofList name))

/-- The host of a text, a name or groups between brackets. -/
def parse? (cs : List Char) : Option Host :=
  match cs with
  | '[' :: rest =>
      if rest.getLast? = some ']' then ofGroups? rest.dropLast else none
  | _ => ofName? cs

/-- How many zeros a list of groups begins with. -/
def zeros (values : List Nat) : Nat :=
  (values.takeWhile (· = 0)).length

/-- Where the longest row of zeros begins, the first of those of the same length, and how long it
is. -/
def longestGap : Nat → List Nat → Nat × Nat
  | start, [] => (start, 0)
  | start, n :: rest =>
      let later := longestGap (start + 1) rest
      let here := zeros (n :: rest)
      if here < later.2 then later else (start, here)

/-- Groups in hexadecimal with colons between them. -/
def joinGroups (values : List Nat) : String :=
  Text.join ":" (values.map (Text.hexPadded 0))

/-- Eight groups with the longest row of two zeros or more left out. -/
def groupsText (values : List Nat) : String :=
  let (start, length) := longestGap 0 values
  if length < 2 then joinGroups values
  else joinGroups (values.take start) ++ "::" ++ joinGroups (values.drop (start + length))

/-- The written form of a host. -/
def text : Host → String
  | .name text => text
  | .number n =>
      Text.join "." ([n / 16777216, n / 65536 % 256, n / 256 % 256, n % 256].map Text.decimal)
  | .groups values => "[" ++ groupsText values ++ "]"

end Host

end Storefront
