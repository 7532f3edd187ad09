import Storefront.Failure
import Storefront.Order.Basic

/-!
# Requests to collaborators

What the service asks of others in the course of an order, what it is told, and what it accepts of
that. A reply is believed only after `Request.check`: a cart must be that of the user and hold lines
that can be ordered, a product must be the one asked for and have a price, a conversion must be into
the currency asked for, a quote must have a cost that is not negative, and payments and shipments
must have names.
-/

namespace Storefront

/-- Something asked of a collaborator. A diverted charge goes to an endpoint that cannot be
reached. -/
inductive Request where
  | getCart (user : UserId)
  | getProduct (product : ProductId)
  | getQuote (address : Address) (lines : List CartLine)
  | convert (amount : Money) (target : CurrencyCode)
  | charge (amount : Money) (card : Card) (diverted : Bool)
  | shipOrder (address : Address) (lines : List CartLine)
  | emptyCart (user : UserId)
  | confirm (confirmation : Confirmation)
  deriving DecidableEq

/-- What a cart service tells: whose cart it is and what is in it. -/
structure CartReply where
  user : UserId
  lines : List CartLine
  deriving DecidableEq

/-- What a catalog tells about a product. The price may be missing. -/
structure ProductReply where
  product : ProductId
  name : String
  price : Option Money
  deriving DecidableEq

namespace Request

/-- What is told in reply to a request. -/
abbrev Reply : Request → Type
  | .getCart _ => CartReply
  | .getProduct _ => ProductReply
  | .getQuote .. => Option Money
  | .convert .. => Money
  | .charge .. => String
  | .shipOrder .. => String
  | .emptyCart _ => Unit
  | .confirm _ => Unit

/-- What is accepted of a reply. -/
abbrev Accepted : Request → Type
  | .getCart _ => Cart
  | .getProduct _ => Money
  | .getQuote .. => Money
  | .convert .. => Money
  | .charge .. => String
  | .shipOrder .. => String
  | .emptyCart _ => Unit
  | .confirm _ => Unit

/-- The service that a request is sent to. -/
def service : Request → String
  | .getCart _ | .emptyCart _ => "CartService"
  | .getProduct _ => "ProductCatalogService"
  | .convert .. => "CurrencyService"
  | .charge .. => "PaymentService"
  | .getQuote .. | .shipOrder .. => "ShippingService"
  | .confirm _ => "EmailService"

/-- The method that a request calls. -/
def method : Request → String
  | .getCart _ => "GetCart"
  | .getProduct _ => "GetProduct"
  | .getQuote .. => "GetQuote"
  | .convert .. => "Convert"
  | .charge .. => "Charge"
  | .shipOrder .. => "ShipOrder"
  | .emptyCart _ => "EmptyCart"
  | .confirm _ => "SendOrderConfirmation"

/-- The step that a request belongs to. -/
def step : Request → Step
  | .getCart _ => .getCart
  | .getProduct _ => .getProduct
  | .getQuote .. => .quoteShipping
  | .convert .. => .convertCurrency
  | .charge .. => .chargePayment
  | .shipOrder .. => .shipOrder
  | .emptyCart _ => .emptyCart
  | .confirm _ => .sendConfirmation

/-- A cart of the user with lines that can be ordered. -/
def checkCart (user : UserId) (reply : CartReply) : Except String Cart :=
  if reply.user = user then (Cart.ofLines reply.lines).mapError CartDefect.message
  else .error ("cart belongs to " ++ reply.user.text ++ ", expected " ++ user.text)

/-- The price of the product. -/
def checkPrice (product : ProductId) (reply : ProductReply) : Except String Money :=
  if reply.product = product then
    match reply.price with
    | some price => .ok price
    | none => .error ("product " ++ product.text ++ " has no price")
  else .error ("asked for product " ++ product.text ++ ", got " ++ reply.product.text)

/-- A cost that is not negative. -/
def checkQuote : Option Money → Except String Money
  | none => .error "quote has no cost"
  | some cost =>
      if cost.isNegative then .error ("negative shipping quote " ++ cost.display) else .ok cost

/-- An amount in the currency. -/
def checkConversion (target : CurrencyCode) (amount : Money) : Except String Money :=
  if amount.currency = target then .ok amount
  else .error ("converted amount is in " ++ amount.currency.text ++ ", expected " ++ target.text)

/-- A name that is not blank; otherwise the complaint. -/
def checkName (complaint : String) (name : String) : Except String String :=
  if Text.isBlankText name then .error complaint else .ok name

/-- What is accepted of a reply, or why it is not. -/
def check : (r : Request) → r.Reply → Except String r.Accepted
  | .getCart user, reply => checkCart user reply
  | .getProduct product, reply => checkPrice product reply
  | .getQuote .., reply => checkQuote reply
  | .convert _ target, reply => checkConversion target reply
  | .charge .., reply => checkName "charge returned no transaction id" reply
  | .shipOrder .., reply => checkName "shipment has no tracking id" reply
  | .emptyCart _, reply => .ok reply
  | .confirm _, reply => .ok reply

/-- What comes of an answer to a request: what is accepted of it, or a failed call. -/
def accept (r : Request) (answer : Except TransportError r.Reply) :
    Except TransportError r.Accepted := do
  let reply ← answer
  (r.check reply).mapError .invalidResponse

end Request

end Storefront
