import Storefront.Call.Request
import Storefront.RetainedLog

/-!
# Mail

Confirmations that were sent to customers.
-/

namespace Storefront

/-- The confirmations, and how the service behaves. -/
structure Mail where
  sent : RetainedLog Confirmation
  fails : Bool
  delay : Option Nat

namespace Mail

/-- Nothing sent, with room for a number of confirmations or for all. -/
def empty (capacity : Option Nat) : Mail :=
  ⟨.empty capacity, false, none⟩

/-- Send a confirmation, unless the service fails. -/
def send (m : Mail) (confirmation : Confirmation) : Except TransportError Unit × Mail :=
  if m.fails then (.error (.status 503 "mail relay unavailable"), m)
  else (.ok (), { m with sent := m.sent.push confirmation })

end Mail

end Storefront
