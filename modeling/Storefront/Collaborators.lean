import Storefront.Collaborator.Carts
import Storefront.Collaborator.Catalog
import Storefront.Collaborator.Exchange
import Storefront.Collaborator.Mail
import Storefront.Collaborator.RemoteMail
import Storefront.Collaborator.Scripted
import Storefront.Collaborator.Shipping

/-!
# Collaborators

All services that an order needs, and how each request is answered. A request is heard by its
service when it arrives and answered after the delay of the service; `answer` is what happens at
that later time. Scripted answers come at once and change nothing. Whether the answer to a request
is scripted is decided when it arrives, so a script that is set while the service works on a request
does not touch that request.
-/

namespace Storefront

/-- All services, the answers that are scripted, the address to which charges are diverted, and the
mail service elsewhere that takes the place of `mail` if there is one. -/
structure Collaborators where
  carts : Carts
  catalog : Catalog
  exchange : Exchange
  payments : Payments
  shipping : Shipping
  mail : Mail
  broker : Broker
  scripted : Scripted
  divertedTo : String
  remoteMail : Option RemoteMail

namespace Collaborators

/-- The address to which charges are diverted unless another one is given. -/
def standardDiversion : String := "badAddress:5000"

/-- Empty services with standard rates, a price of shipping, and room for a number of entries in
each log or for all. -/
def new (quote : Money) (capacity : Option Nat) : Collaborators where
  carts := .empty
  catalog := .empty
  exchange := .standard
  payments := .empty capacity
  shipping := .new quote capacity
  mail := .empty capacity
  broker := .empty capacity
  scripted := .none
  divertedTo := standardDiversion
  remoteMail := none

/-- The request arrives at one of the services here. -/
def hears (c : Collaborators) : Request → Bool
  | .charge _ _ diverted => !diverted
  | .confirm _ => c.remoteMail.isNone
  | _ => true

/-- How long the service of a request waits before it answers. -/
def serviceDelay (c : Collaborators) : Request → Nat
  | .getCart _ | .emptyCart _ => c.carts.delay.getD 0
  | .getProduct _ => c.catalog.delay.getD 0
  | .getQuote .. | .shipOrder .. => c.shipping.delay.getD 0
  | .convert .. => 0
  | .charge _ _ diverted => if diverted then 0 else c.payments.delay.getD 0
  | .confirm _ => if c.remoteMail.isSome then 0 else c.mail.delay.getD 0

/-- The answer to a request that arrives now is scripted. -/
def scripts (c : Collaborators) (r : Request) : Bool :=
  (c.scripted.answer? r).isSome

/-- How long it takes until a request is answered. -/
def delay (c : Collaborators) (r : Request) : Nat :=
  if c.scripts r then 0 else c.serviceDelay r

/-- Charge a card, or fail to reach the endpoint to which charges are diverted. -/
def charge (c : Collaborators) (amount : Money) (diverted : Bool) :
    Except TransportError String × Collaborators :=
  if diverted then (.error (.unavailable ("connection refused: " ++ c.divertedTo)), c)
  else
    let (reply, payments) := c.payments.charge amount
    (reply, { c with payments := payments })

/-- Send a confirmation from here, or fail to reach the service elsewhere. -/
def confirm (c : Collaborators) (confirmation : Confirmation) :
    Except TransportError Unit × Collaborators :=
  match c.remoteMail with
  | some remote => (.error (RemoteMail.unanswered remote.endpoint), c)
  | none =>
      let (reply, mail) := c.mail.send confirmation
      (reply, { c with mail := mail })

/-- What the service of a request answers, and what changes by it. -/
def serviceAnswer (c : Collaborators) :
    (r : Request) → Except TransportError r.Reply × Collaborators
  | .getCart user => (c.carts.read user, c)
  | .getProduct product => (c.catalog.find product, c)
  | .getQuote _ lines => (c.shipping.price lines, c)
  | .convert amount target => (c.exchange.convert amount target, c)
  | .charge amount _ diverted => c.charge amount diverted
  | .shipOrder address lines =>
      let (reply, shipping) := c.shipping.ship address lines
      (reply, { c with shipping := shipping })
  | .emptyCart user =>
      let (reply, carts) := c.carts.emptyCart user
      (reply, { c with carts := carts })
  | .confirm confirmation => c.confirm confirmation

/-- What a request is answered, by the script or by its service, and what changes by it. -/
def answer (c : Collaborators) (r : Request) (isScripted : Bool) :
    Except TransportError r.Reply × Collaborators :=
  match if isScripted then c.scripted.answer? r else none with
  | some reply => (reply, c)
  | none => c.serviceAnswer r

/-- The answer to a message that arrives now is scripted. -/
def scriptsSend (c : Collaborators) : Bool :=
  c.scripted.send.isSome

/-- How long it takes until the broker answers. -/
def sendDelay (c : Collaborators) : Nat :=
  if c.scriptsSend then 0 else c.broker.delay.getD 0

/-- What a message is answered, by the script or by the broker, and what changes by it. -/
def send (c : Collaborators) (message : Message) (isScripted : Bool) :
    Except TransportError Receipt × Collaborators :=
  match if isScripted then c.scripted.send else none with
  | some reply => (reply, c)
  | none =>
      let (reply, broker) := c.broker.send message
      (reply, { c with broker := broker })

end Collaborators

end Storefront
