import Storefront.Call.Request
import Storefront.Dict

/-!
# Exchange rates

Amounts are converted by way of one reference currency. A rate says how much of a currency one unit
of the reference is worth, and only positive rates are used. The result is the amount nearest to the
quotient and product of floating point numbers.
-/

namespace Storefront

/-- Rates by currency, and how the service behaves. -/
structure Exchange where
  rates : Dict Float
  fails : Bool

namespace Exchange

/-- The rates at the start, as quotients. -/
def standardRates : List (String × Nat × Nat) :=
  [("EUR", 1, 1), ("USD", 11305, 10000), ("JPY", 12640, 100), ("GBP", 85970, 100000),
    ("CAD", 15128, 10000), ("CHF", 11360, 10000), ("TRY", 61247, 10000)]

/-- The service at the start. -/
def standard : Exchange :=
  ⟨.ofList (standardRates.map fun (code, num, den) ↦ (code, Binary64.ofRatio false num den)), false⟩

/-- Set the rate of a currency. -/
def setRate (e : Exchange) (code : CurrencyCode) (rate : Float) : Exchange :=
  { e with rates := e.rates.insert code.text rate }

/-- The currencies that have a rate, in order. -/
def currencies (e : Exchange) : List String :=
  e.rates.keys

/-- The rate of a currency, if it is positive. -/
def rate (e : Exchange) (code : CurrencyCode) : Except TransportError Float :=
  match (e.rates.get? code.text).filter fun rate ↦ Binary64.ofInt 0 < rate with
  | some rate => .ok rate
  | none => .error (.status 400 ("unsupported currency " ++ code.text))

/-- An amount in another currency. -/
def convert (e : Exchange) (amount : Money) (target : CurrencyCode) :
    Except TransportError Money := do
  if e.fails then throw (.unavailable "currency backend unreachable")
  let sourceRate ← e.rate amount.currency
  let targetRate ← e.rate target
  (Money.ofFloat (amount.toFloat / sourceRate * targetRate) target).mapError
    fun error ↦ .status 400 error.message

end Exchange

end Storefront
