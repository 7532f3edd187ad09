/-!
# Numerals

Reading and writing whole numbers. Decimal numerals carry an optional plus sign when they are read
and no superfluous zeros when they are written; hexadecimal numerals have either case when they
are read and lower case when they are written. `readUnsigned` never accepts a number beyond its
bound, so nothing is wrapped or cut.
-/

namespace Storefront.Text

/-- The value of a decimal digit. -/
def digit? (c : Char) : Option Nat :=
  if '0' ≤ c && c ≤ '9' then some (c.toNat - 48) else none

/-- The value of a hexadecimal digit of either case. -/
def hexDigit? (c : Char) : Option Nat :=
  if '0' ≤ c && c ≤ '9' then some (c.toNat - 48)
  else if 'a' ≤ c && c ≤ 'f' then some (c.toNat - 87)
  else if 'A' ≤ c && c ≤ 'F' then some (c.toNat - 55)
  else none

/-- Read digits from left to right, starting from a value already read. -/
def foldDigits (value? : Char → Option Nat) (base : Nat) : Nat → List Char → Option Nat
  | acc, [] => some acc
  | acc, c :: cs => do
      let d ← value? c
      foldDigits value? base (acc * base + d) cs

/-- A non-empty row of decimal digits. -/
def decimal? : List Char → Option Nat
  | [] => none
  | cs => foldDigits digit? 10 0 cs

/-- A non-empty row of hexadecimal digits. -/
def hexadecimal? : List Char → Option Nat
  | [] => none
  | cs => foldDigits hexDigit? 16 0 cs

/-- The text without one leading plus sign. -/
def dropPlus : List Char → List Char
  | '+' :: cs => cs
  | cs => cs

/-- A decimal numeral with an optional plus sign whose value is below the bound. -/
def readUnsigned (bound : Nat) (s : String) : Option Nat := do
  let n ← decimal? (dropPlus s.toList)
  if n < bound then some n else none

/-- Decimal digits of a number. -/
def decimal (n : Nat) : String :=
  String.ofList (Nat.toDigits 10 n)

/-- Decimal digits of an integer, with a minus sign when it is negative. -/
def decimalInt (n : Int) : String :=
  if n < 0 then "-" ++ decimal n.natAbs else decimal n.natAbs

/-- Characters filled up with leading zeros to a least width. -/
def padZeros (width : Nat) (cs : List Char) : List Char :=
  List.replicate (width - cs.length) '0' ++ cs

/-- Decimal digits of a number, at least as many as the width. -/
def decimalPadded (width n : Nat) : String :=
  String.ofList (padZeros width (Nat.toDigits 10 n))

/-- Lower-case hexadecimal digits of a number, at least as many as the width. -/
def hexPadded (width n : Nat) : String :=
  String.ofList (padZeros width (Nat.toDigits 16 n))

/-- Bytes as pairs of lower-case hexadecimal digits. -/
def hexOfBytes (bytes : List UInt8) : String :=
  String.ofList (bytes.flatMap fun b ↦ padZeros 2 (Nat.toDigits 16 b.toNat))

/-- Pairs of hexadecimal digits as bytes. -/
def bytesOfHex? : List Char → Option (List UInt8)
  | [] => some []
  | [_] => none
  | a :: b :: rest => do
      let high ← hexDigit? a
      let low ← hexDigit? b
      let bytes ← bytesOfHex? rest
      some (UInt8.ofNat (16 * high + low) :: bytes)

end Storefront.Text
