import Storefront.Binary64
import Storefront.Money.Currency

/-!
# Money

Exact amounts of one currency. An amount is a whole number of nanos, a nano being a billionth of
the currency's unit. It is kept in two words, `units` and `nanos`, that lie on the same side of
zero.
Sums and products are formed from the exact nano `total`; `ofTotal` splits a total into the two
words again, and fails with `MoneyError.overflow` when the units do not fit in 64 bits.
-/

namespace Storefront

/-- Nanos in one unit. -/
def nanosPerUnit : Int := 1000000000

/-- Units and nanos describe an amount when the nanos are less than one unit and do not lie on the
other side of zero. -/
def Money.WellFormed (units nanos : Int) : Prop :=
  -nanosPerUnit < nanos ∧ nanos < nanosPerUnit ∧ ¬(0 < units ∧ nanos < 0) ∧
    ¬(units < 0 ∧ 0 < nanos)

/-- `Money.WellFormed` is decidable by comparisons. -/
instance (units nanos : Int) : Decidable (Money.WellFormed units nanos) :=
  inferInstanceAs (Decidable (_ ∧ _))

/-- An amount of a currency: whole units in a 64-bit word, and the nanos beyond them in a 32-bit
word. -/
structure Money where
  currency : CurrencyCode
  unitWord : Int64
  nanoWord : Int32
  wellFormed : Money.WellFormed unitWord.toInt nanoWord.toInt
  deriving DecidableEq

/-- Why an amount could not be formed. -/
inductive MoneyError where
  | currencyMismatch (left right : CurrencyCode)
  | overflow
  | invalidNanos (units nanos : Int)
  | invalidCurrencyCode (text : String)
  | nonFinite (value : Binary64.NonFinite)
  deriving DecidableEq

/-- The wording of each cause. -/
def MoneyError.message : MoneyError → String
  | .currencyMismatch left right => "Currency mismatch: " ++ left.text ++ " vs " ++ right.text
  | .overflow => "Money arithmetic overflow"
  | .invalidNanos units nanos =>
      "Invalid money value: units " ++ Text.decimalInt units ++ ", nanos " ++ Text.decimalInt nanos
  | .invalidCurrencyCode text => "Invalid currency code: " ++ Text.quote text
  | .nonFinite value => "Cannot convert non-finite value " ++ value.name ++ " to money"

/-- Read a currency code, with the text in the error otherwise. -/
def CurrencyCode.parse (s : String) : Except MoneyError CurrencyCode :=
  match parse? s with
  | some code => .ok code
  | none => .error (.invalidCurrencyCode s)

namespace Money

/-- Quotient and remainder toward zero of a nano total are on its side of zero. -/
theorem wellFormed_tdiv_tmod (total : Int) :
    WellFormed (total.tdiv nanosPerUnit) (total.tmod nanosPerUnit) := by
  unfold WellFormed nanosPerUnit
  rcases Int.le_total 0 total with h | h
  · rw [Int.tdiv_eq_ediv_of_nonneg h, Int.tmod_eq_emod_of_nonneg h]
    omega
  · obtain ⟨size, rfl⟩ : ∃ size, total = -size := ⟨-total, by omega⟩
    have hsize : 0 ≤ size := by omega
    rw [Int.neg_tdiv, Int.neg_tmod, Int.tdiv_eq_ediv_of_nonneg hsize,
      Int.tmod_eq_emod_of_nonneg hsize]
    omega

/-- The remainder of a nano total is kept by a 32-bit word. -/
theorem toInt_nanoWord (total : Int) :
    (Int32.ofInt (total.tmod nanosPerUnit)).toInt = total.tmod nanosPerUnit := by
  obtain ⟨hlow, hhigh, -, -⟩ := wellFormed_tdiv_tmod total
  unfold nanosPerUnit at *
  exact Int32.toInt_ofInt_of_le (by omega) (by omega)

/-- The amount with a given nano total, if its units fit in a word. -/
def ofTotal (currency : CurrencyCode) (total : Int) : Except MoneyError Money :=
  if h : Int64.minValue.toInt ≤ total.tdiv nanosPerUnit ∧
      total.tdiv nanosPerUnit ≤ Int64.maxValue.toInt then
    .ok ⟨currency, Int64.ofIntLE (total.tdiv nanosPerUnit) h.1 h.2,
      Int32.ofInt (total.tmod nanosPerUnit), by
        rw [Int64.toInt_ofIntLE, toInt_nanoWord]
        exact wellFormed_tdiv_tmod total⟩
  else .error .overflow

/-- An amount from two words. -/
def ofWords (currency : CurrencyCode) (units : Int64) (nanos : Int32) : Except MoneyError Money :=
  if h : WellFormed units.toInt nanos.toInt then .ok ⟨currency, units, nanos, h⟩
  else .error (.invalidNanos units.toInt nanos.toInt)

/-- An amount from its two parts, the units being a 64-bit integer and the nanos a 32-bit one. -/
def ofParts (currency : CurrencyCode) (units nanos : Int) : Except MoneyError Money :=
  ofWords currency (.ofInt units) (.ofInt nanos)

/-- An amount of whole units. -/
def ofUnits (currency : CurrencyCode) (units : Int64) : Money :=
  ⟨currency, units, 0, by simp [WellFormed, nanosPerUnit]⟩

/-- Nothing, in a currency. -/
def zero (currency : CurrencyCode) : Money :=
  ofUnits currency 0

/-- The whole units, toward zero. -/
def units (m : Money) : Int :=
  m.unitWord.toInt

/-- The nanos beyond the whole units, with the sign of the amount. -/
def nanos (m : Money) : Int :=
  m.nanoWord.toInt

/-- The whole amount in nanos. -/
def total (m : Money) : Int :=
  m.units * nanosPerUnit + m.nanos

/-- The amount is zero. -/
def isZero (m : Money) : Bool :=
  m.units == 0 && m.nanos == 0

/-- The amount is below zero. -/
def isNegative (m : Money) : Bool :=
  m.units < 0 || m.nanos < 0

/-- The amount is above zero. -/
def isPositive (m : Money) : Bool :=
  0 < m.units || 0 < m.nanos

/-- The product of two integers, if it fits in a 128-bit word. -/
def product? (a b : Int) : Option Int :=
  if -170141183460469231731687303715884105728 ≤ a * b ∧
      a * b ≤ 170141183460469231731687303715884105727 then some (a * b)
  else none

/-- Add two amounts of one currency. -/
def add (a b : Money) : Except MoneyError Money :=
  if a.currency = b.currency then ofTotal a.currency (a.total + b.total)
  else .error (.currencyMismatch a.currency b.currency)

/-- A number of times the amount. -/
def multiply (m : Money) (quantity : Nat) : Except MoneyError Money :=
  match product? m.total quantity with
  | some total => ofTotal m.currency total
  | none => .error .overflow

/-- Add amounts from left to right, starting from nothing in the currency. -/
def sum (currency : CurrencyCode) (amounts : List Money) : Except MoneyError Money :=
  amounts.foldlM add (zero currency)

/-- The floating point number near the amount, for rates and diagnostics. -/
def toFloat (m : Money) : Float :=
  Binary64.ofInt m.units + Binary64.ofInt m.nanos / Binary64.ofInt nanosPerUnit

/-- The amount nearest to a floating point number, to the nano. -/
def ofFloat (value : Float) (currency : CurrencyCode) : Except MoneyError Money :=
  match Binary64.nonFinite? value with
  | some reason => .error (.nonFinite reason)
  | none =>
      let whole := Binary64.truncate value
      let rest := (value - Binary64.ofInt whole) * Binary64.ofInt nanosPerUnit
      ofTotal currency (whole * nanosPerUnit + Binary64.roundHalfAway rest)

/-- Sign, whole units, nine decimals, and the code. -/
def display (m : Money) : String :=
  (if m.isNegative then "-" else "") ++ Text.decimal m.units.natAbs ++ "." ++
    Text.decimalPadded 9 m.nanos.natAbs ++ " " ++ m.currency.text

end Money

end Storefront
