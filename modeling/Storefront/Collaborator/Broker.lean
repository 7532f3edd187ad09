import Storefront.Failure
import Storefront.RetainedLog
import Storefront.Trace.Carrier

/-!
# The message broker

Messages about orders, in one partition. Each accepted message has the next offset, counting from
zero, and offsets go on counting when the oldest messages are forgotten.
-/

namespace Storefront

/-- A message: where it goes, what it is about, what it says, and its headers. -/
structure Message where
  topic : String
  key : String
  payload : String
  headers : RecordHeaders

/-- Where a broker has put a message, as far as it tells. -/
structure Receipt where
  partition : Option Int
  offset : Option Int
  deriving DecidableEq

/-- The messages, and how the service behaves. -/
structure Broker where
  messages : RetainedLog Message
  fails : Bool
  delay : Option Nat

namespace Broker

/-- No messages, with room for a number of them or for all. -/
def empty (capacity : Option Nat) : Broker :=
  ⟨.empty capacity, false, none⟩

/-- Accept a message, unless the broker fails. -/
def send (b : Broker) (message : Message) : Except TransportError Receipt × Broker :=
  if b.fails then (.error (.unavailable "broker unreachable"), b)
  else (.ok ⟨some 0, some b.messages.total⟩, { b with messages := b.messages.push message })

end Broker

end Storefront
