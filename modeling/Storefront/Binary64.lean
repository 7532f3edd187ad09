import Storefront.Text.Numeral

/-!
# Binary64 numbers and exact numbers

Passing between 64-bit floating point numbers and exact ones. `ofRatio` is the number nearest to a
quotient, with ties to the even neighbour, gradual underflow, and infinity on overflow; `ofInt` and
`read?` are its uses for integers and for decimal texts. In the other direction `parts` splits a
number into a whole mantissa and a power of two, and `truncate` and `roundHalfAway` are computed
from that split without rounding errors.
-/

namespace Storefront.Binary64

/-- The one not-a-number that is ever written. -/
def nan : Float := Float.ofBits 0x7ff8000000000000

/-- The sign bit set or cleared on a pattern of magnitude bits. -/
def withSign (negative : Bool) (magnitude : Nat) : Float :=
  Float.ofBits (UInt64.ofNat (if negative then Nat.pow 2 63 + magnitude else magnitude))

/-- Multiply by a power of two whose exponent may be negative, as a pair of numerator and
denominator. -/
def scale (num den : Nat) (exponent : Int) : Nat × Nat :=
  if 0 ≤ exponent then (num <<< exponent.toNat, den) else (num, den <<< (-exponent).toNat)

/-- Divide and round to the nearest whole number, a tie to the even one. -/
def divNearestEven (num den : Nat) : Nat :=
  let q := num / den
  let r := num % den
  if den < 2 * r || (den == 2 * r && q % 2 == 1) then q + 1 else q

/-- The exponent of the last mantissa bit for a positive quotient: 53 bits are kept, and none below
2^-1074. -/
def lastBit (num den : Nat) : Int :=
  let guess := max ((num.log2 : Int) - (den.log2 : Int) - 53) (-1074)
  let (n, d) := scale num den (-guess)
  if n / d < Nat.pow 2 53 then guess else guess + 1

/-- The number nearest to `num / den`, a tie to the even neighbour. -/
def ofRatio (negative : Bool) (num den : Nat) : Float :=
  if num = 0 then withSign negative 0
  else
    let e := lastBit num den
    let (n, d) := scale num den (-e)
    let mantissa := divNearestEven n d
    let magnitude :=
      if mantissa < Nat.pow 2 52 then mantissa
      else (e + 1075).toNat * Nat.pow 2 52 + (mantissa - Nat.pow 2 52)
    withSign negative (min magnitude (2047 * Nat.pow 2 52))

/-- The number nearest to a natural number, as a natural number; the range is not limited. -/
def nearestNat (n : Nat) : Nat :=
  let shift := n.log2 - 52
  divNearestEven n (1 <<< shift) <<< shift

/-- The number nearest to an integer. -/
def ofInt (n : Int) : Float :=
  ofRatio (n < 0) n.natAbs 1

/-- What a number is: not a number, infinite, or `± mantissa · 2 ^ exponent`. -/
inductive Parts where
  | nan
  | infinite (negative : Bool)
  | finite (negative : Bool) (mantissa : Nat) (exponent : Int)
  deriving DecidableEq

/-- Split a number into sign, mantissa, and exponent. -/
def parts (x : Float) : Parts :=
  let bits := x.toBits.toNat
  let negative := decide (Nat.pow 2 63 ≤ bits)
  let field : Nat := bits / Nat.pow 2 52 % Nat.pow 2 11
  let fraction : Nat := bits % Nat.pow 2 52
  if field = 2047 then if fraction = 0 then .infinite negative else .nan
  else if field = 0 then .finite negative fraction (-1074)
  else .finite negative (Nat.pow 2 52 + fraction) ((field : Int) - 1075)

/-- Put the sign on a magnitude. -/
def signed (negative : Bool) (magnitude : Nat) : Int :=
  if negative then -magnitude else magnitude

/-- The whole part of a finite number, toward zero. -/
def truncate (x : Float) : Int :=
  match parts x with
  | .finite negative mantissa exponent =>
      let (n, d) := scale mantissa 1 exponent
      signed negative (n / d)
  | _ => 0

/-- The nearest whole number to a finite number, a tie away from zero. -/
def roundHalfAway (x : Float) : Int :=
  match parts x with
  | .finite negative mantissa exponent =>
      let (n, d) := scale mantissa 1 exponent
      signed negative ((2 * n + d) / (2 * d))
  | _ => 0

/-- The bits of a number as sixteen hexadecimal digits, one pattern for every not-a-number. -/
def hex (x : Float) : String :=
  match parts x with
  | .nan => Text.hexPadded 16 nan.toBits.toNat
  | _ => Text.hexPadded 16 x.toBits.toNat

/-- The number nearest to `digits · 10 ^ exponent`. Exponents far outside the range of the format
give infinity or zero without a power being formed. -/
def ofDecimal (negative : Bool) (digits : Nat) (exponent : Int) : Float :=
  if digits = 0 then withSign negative 0
  else
    let size := (Nat.toDigits 10 digits).length
    if 310 < exponent + size then withSign negative (2047 * Nat.pow 2 52)
    else if exponent + size < -330 then withSign negative 0
    else if 0 ≤ exponent then ofRatio negative (digits * Nat.pow 10 exponent.toNat) 1
    else ofRatio negative digits (Nat.pow 10 (-exponent).toNat)

/-- The sign in front of a numeral and what follows it. -/
def readSign : List Char → Bool × List Char
  | '-' :: cs => (true, cs)
  | '+' :: cs => (false, cs)
  | cs => (false, cs)

/-- The exponent part of a decimal numeral: nothing, or `e` with a whole number. -/
def readExponent? : List Char → Option Int
  | [] => some 0
  | c :: cs =>
      if c = 'e' || c = 'E' then
        let (negative, digits) := readSign cs
        (Text.decimal? digits).map (signed negative)
      else none

/-- A decimal numeral without sign: digits with an optional point among them, at least one digit,
and an optional exponent. -/
def readDecimal? (negative : Bool) (cs : List Char) : Option Float := do
  let whole := cs.takeWhile Char.isDigit
  let afterWhole := cs.dropWhile Char.isDigit
  let (fraction, rest) :=
    match afterWhole with
    | '.' :: more => (more.takeWhile Char.isDigit, more.dropWhile Char.isDigit)
    | more => ([], more)
  let digits ← Text.decimal? (whole ++ fraction)
  let exponent ← readExponent? rest
  some (ofDecimal negative digits (exponent - fraction.length))

/-- Read the text of a number: an optional sign, and then `inf`, `infinity`, or `nan` in any case,
or a decimal numeral. -/
def read? (s : String) : Option Float :=
  let (negative, cs) := readSign s.toList
  let name := String.ofList (cs.map Char.toLower)
  if name = "inf" || name = "infinity" then some (withSign negative (2047 * Nat.pow 2 52))
  else if name = "nan" then some nan
  else readDecimal? negative cs

/-- The numbers that are not finite. -/
inductive NonFinite where
  | nan
  | positiveInfinity
  | negativeInfinity
  deriving DecidableEq

/-- The text of a number that is not finite. -/
def NonFinite.name : NonFinite → String
  | .nan => "NaN"
  | .positiveInfinity => "inf"
  | .negativeInfinity => "-inf"

/-- Why a number is not finite, if it is not. -/
def nonFinite? (x : Float) : Option NonFinite :=
  match parts x with
  | .nan => some .nan
  | .infinite false => some .positiveInfinity
  | .infinite true => some .negativeInfinity
  | .finite .. => none

/-- A number moved into the range from zero to one. What is not a number stays so. -/
def clampUnit (x : Float) : Float :=
  let low := if x < ofInt 0 then ofInt 0 else x
  if ofInt 1 < low then ofInt 1 else low

end Storefront.Binary64
