import Storefront.Checkout.Dialogue

/-!
# Placing an order

The checkout as a dialogue. `placeOrder` checks the request, fetches the cart, asks for the price of
each line, for the price of shipping, and for the conversion of every amount that is not in the
currency of the request, charges the total, hands the order to the carrier, and empties the cart.
Each step happens only if all steps before it succeeded; emptying the cart may fail. Nothing is
charged before everything that can be known in advance is known, and nothing is undone.
-/

namespace Storefront.Checkout

/-- The cart of a user. -/
def cart (user : UserId) : Placement Cart :=
  .ask (.getCart user) (.cartUnavailable user)

/-- The price of a product. -/
def price (product : ProductId) : Placement Money :=
  .ask (.getProduct product) (.catalogUnavailable product)

/-- The price of shipping. -/
def quote (address : Address) (lines : List CartLine) : Placement Money :=
  .ask (.getQuote address lines) .shippingQuoteFailed

/-- An amount converted into a currency. -/
def convert (amount : Money) (target : CurrencyCode) : Placement Money :=
  .ask (.convert amount target) (.pricingUnavailable amount.currency target)

/-- The name of the payment when a card has been charged. -/
def charge (amount : Money) (card : Card) (diverted : Bool) : Placement String :=
  .ask (.charge amount card diverted) .paymentFailed

/-- The name of the shipment when an order has been handed to the carrier. -/
def ship (address : Address) (lines : List CartLine) : Placement String :=
  .ask (.shipOrder address lines) .shippingFailed

/-- Empty the cart of a user, or say why not. -/
def emptyCart (user : UserId) : Placement (Except BestEffortError Unit) :=
  .attempt (.emptyCart user) .cartClearFailed

/-- Send a confirmation, or say why not. -/
def confirm (confirmation : Confirmation) : Placement (Except BestEffortError Unit) :=
  .attempt (.confirm confirmation) .notificationFailed

/-- An amount in a currency: itself, or converted. -/
def inCurrency (target : CurrencyCode) (amount : Money) : Placement Money :=
  if amount.currency = target then pure amount else convert amount target

/-- Each line with the price of its product, in order. -/
def pricedLines : List CartLine → Placement (List PricedLine)
  | [] => pure []
  | line :: rest => do
      let cost ← price line.product
      let priced ← pricedLines rest
      return ⟨line, cost⟩ :: priced

/-- Each line with its price in a currency, in order. -/
def linesInCurrency (target : CurrencyCode) : List PricedLine → Placement (List PricedLine)
  | [] => pure []
  | p :: rest => do
      let cost ← inCurrency target p.cost
      let converted ← linesInCurrency target rest
      return ⟨p.line, cost⟩ :: converted

/-- Note that a stage is over. -/
def advance (id : OrderId) (stage : Stage) : Placement Unit :=
  match stage.next? with
  | some next => .note (.progress id stage next)
  | none => .note (.progress id stage stage)

/-- A line of the log about an order. -/
def say (level : LogLevel) (id : OrderId) (message : String) (more : List (String × String)) :
    Placement Unit :=
  .note (.line ⟨level, message, ("order_id", id.text) :: more⟩)

/-- What an order costs in its currency, before anything is charged. -/
structure Priced where
  lines : List PricedLine
  shipping : Money
  total : Money

/-- Listed lines and a price of shipping, in the currency of the request, with their total. -/
def addedUp (request : ValidRequest) (lines : List PricedLine) (cost : Money) :
    Placement Priced := do
  let lines ← linesInCurrency request.currency lines
  let shipping ← inCurrency request.currency cost
  let total ← .require (.invalidAmount .prepareTotal)
    (orderTotal request.currency lines shipping)
  .note (.event "prepared"
    [("app.order.items.count", .int lines.length),
      ("app.shipping.amount", .float shipping.toFloat)])
  return ⟨lines, shipping, total⟩

/-- The prices of a cart, of shipping it, and of the whole, in the currency of the request. -/
def priced (request : ValidRequest) (cart : Cart) : Placement Priced := do
  let lines ← pricedLines cart.lines
  let cost ← quote request.address cart.lines
  addedUp request lines cost

/-- Warn if the charge is going to be diverted. -/
def warnOfDiversion (id : OrderId) (diverted : Bool) : Placement Unit :=
  if diverted then say .warn id "fault policy redirected payment to an unreachable endpoint" []
  else pure ()

/-- Charge the total, to an endpoint that cannot be reached if charges are diverted. -/
def pay (id : OrderId) (request : ValidRequest) (total : Money) : Placement String := do
  let diverted ← .consult
  warnOfDiversion id diverted
  let transaction ← charge total request.card diverted
  .note (.event "charged" [("app.payment.transaction.id", .text transaction)])
  say .info id "payment charged" [("transaction_id", transaction), ("amount", total.display)]
  return transaction

/-- Hand the order to the carrier. When that fails, the log says that the charge stays. -/
def dispatch (id : OrderId) (request : ValidRequest) (cart : Cart) (transaction : String) :
    Placement String := do
  let tracking ← tryCatch (ship request.address cart.lines) fun error ↦ do
    say .error id "order charged but not shipped; no refund issued"
      [("transaction_id", transaction)]
    throw error
  .note (.event "shipped" [("app.shipping.tracking.id", .text tracking)])
  return tracking

/-- Empty the cart, noting a failure. -/
def clearCart (user : UserId) : Placement Unit := do
  match ← emptyCart user with
  | .ok _ => pure ()
  | .error error => .note (.setback error)

/-- The order as it is confirmed and announced, with its facts noted. -/
def complete (id : OrderId) (request : ValidRequest) (priced : Priced) (tracking : String) :
    Placement Order := do
  let order : Order :=
    ⟨id, tracking, priced.shipping, request.address, priced.lines, priced.total⟩
  .note (.attribute "app.order.amount" (.float order.totalCost.toFloat))
  .note (.attribute "app.order.items.count" (.int order.lines.length))
  .note (.attribute "app.shipping.amount" (.float order.shippingCost.toFloat))
  .note (.attribute "app.shipping.tracking.id" (.text tracking))
  .note (.completed order request.email)
  return order

/-- Place an order under a number. -/
def placeOrder (id : OrderId) (request : OrderRequest) : Placement Order := do
  let request ← .require .invalidRequest request.validate
  .note (.attribute "app.order.id" (.text id.text))
  let cart ← cart request.user
  advance id .validating
  let priced ← priced request cart
  advance id .cartFetched
  let transaction ← pay id request priced.total
  advance id .pricedAndQuoted
  let tracking ← dispatch id request cart transaction
  advance id .charged
  clearCart request.user
  advance id .shipped
  let order ← complete id request priced tracking
  advance id .cartCleared
  return order

end Storefront.Checkout
