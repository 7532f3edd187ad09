import Storefront.Call.Request
import Storefront.RetainedLog

/-!
# Payments

Charges that were taken, each under a name that counts them. The names go on counting when the
oldest charges are forgotten, and a declined charge uses up no name.
-/

namespace Storefront

/-- Names that count: a word and a number of at least four digits. -/
def countedName (word : String) (n : Nat) : String :=
  word ++ "-" ++ Text.decimalPadded 4 n

/-- The charges, the number of the last one, which counts modulo `2 ^ 32`, and how the service
behaves. -/
structure Payments where
  charges : RetainedLog (String × Money)
  lastNumber : UInt32
  fails : Bool
  delay : Option Nat

namespace Payments

/-- No charges, with room for a number of them or for all. -/
def empty (capacity : Option Nat) : Payments :=
  ⟨.empty capacity, 0, false, none⟩

/-- Take an amount, unless charges are declined. -/
def charge (p : Payments) (amount : Money) : Except TransportError String × Payments :=
  if p.fails then (.error (.status 400 "card declined"), p)
  else
    let number := p.lastNumber + 1
    let name := countedName "PAY" number.toNat
    (.ok name, { p with charges := p.charges.push (name, amount), lastNumber := number })

/-- The amount that was taken under a name. -/
def amount? (p : Payments) (name : String) : Option Money :=
  (p.charges.entries.find? fun e ↦ e.1 == name).map Prod.snd

end Payments

end Storefront
