import Storefront.Text.Numeral

/-!
# Durations

A number of milliseconds as it is shown in a diagnostic: in seconds from one second on, with as many
decimals as are needed, and in milliseconds below.
-/

namespace Storefront.Text

/-- Decimals of a number of thousandths, after a point, without zeros at the end. -/
def thousandths (n : Nat) : String :=
  let digits := padZeros 3 (Nat.toDigits 10 n)
  let kept := (digits.reverse.dropWhile (· == '0')).reverse
  if kept.isEmpty then "" else "." ++ String.ofList kept

/-- A number of milliseconds with its unit. -/
def duration (ms : Nat) : String :=
  if ms = 0 then "0ns"
  else if ms < 1000 then decimal ms ++ "ms"
  else decimal (ms / 1000) ++ thousandths (ms % 1000) ++ "s"

end Storefront.Text
