import Storefront.Call.Request
import Storefront.Collaborator.Broker

/-!
# Scripted answers

Answers that are given word for word, whatever a collaborator knows, for as long as they are set.
They may be malformed, so they exercise what the service does with replies it must not believe.
-/

namespace Storefront

/-- For each method the answer that is given, if one is set. -/
structure Scripted where
  getCart : Option (Except TransportError CartReply)
  getProduct : Option (Except TransportError ProductReply)
  getQuote : Option (Except TransportError (Option Money))
  convert : Option (Except TransportError Money)
  charge : Option (Except TransportError String)
  shipOrder : Option (Except TransportError String)
  emptyCart : Option (Except TransportError Unit)
  confirm : Option (Except TransportError Unit)
  send : Option (Except TransportError Receipt)

namespace Scripted

/-- No answers are set. -/
def none : Scripted :=
  ⟨.none, .none, .none, .none, .none, .none, .none, .none, .none⟩

/-- The answer to a request. A diverted charge never gets to the payment service and its script. -/
def answer? (s : Scripted) : (r : Request) → Option (Except TransportError r.Reply)
  | .getCart _ => s.getCart
  | .getProduct _ => s.getProduct
  | .getQuote .. => s.getQuote
  | .convert .. => s.convert
  | .charge _ _ diverted => if diverted then .none else s.charge
  | .shipOrder .. => s.shipOrder
  | .emptyCart _ => s.emptyCart
  | .confirm _ => s.confirm

end Scripted

end Storefront
