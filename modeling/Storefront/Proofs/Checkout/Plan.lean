import Storefront.Checkout.Placement
import Storefront.Proofs.Checkout.Conversation

/-!
# Plans

What a checkout learns before it charges anything, and all that it says. A `Plan` holds the cart,
the price of each line and of shipping, and what each comes to in the currency of the request; it
fixes every call up to the charge. `Conforms` lists the ways in which a checkout can go: refused at
once, stopped at one of the calls of a plan, or carried through. The main theorem, `conforms`, says
that there is no other way, whatever the collaborators answer.
-/

namespace Storefront

/-- How the failure of a call that an order needs is turned into the error of its step. An order
goes on without the others. -/
def Request.ownError? : Request → Option (TransportError → PlacementError)
  | .getCart user => some (.cartUnavailable user)
  | .getProduct product => some (.catalogUnavailable product)
  | .getQuote .. => some .shippingQuoteFailed
  | .convert amount target => some (.pricingUnavailable amount.currency target)
  | .charge .. => some .paymentFailed
  | .shipOrder .. => some .shippingFailed
  | .emptyCart _ | .confirm _ => none

/-- The error of an order that ends because a call failed. -/
def Request.blame? (request : Request) (failure : CallFailure) : Option PlacementError :=
  request.ownError?.map fun wrap ↦ PlacementError.ofCall request.step wrap failure

/-- `StopsAt script events error` says that `events` follow the script up to one of its calls, which
fails with the error. -/
def StopsAt (script events : List Event) (error : PlacementError) : Prop :=
  ∃ before call after failure, script = before ++ .asked call :: after ∧
    events = before ++ [.asked ⟨call.request, .error failure⟩] ∧
    call.request.blame? failure = some error

namespace StopsAt

variable {script more events : List Event} {error : PlacementError}

/-- The first call fails. -/
theorem head (call : Call) {failure : CallFailure}
    (h : call.request.blame? failure = some error) :
    StopsAt (.asked call :: script) [.asked ⟨call.request, .error failure⟩] error :=
  ⟨[], call, script, failure, rfl, rfl, h⟩

/-- The script may go on after the call that fails. -/
theorem append (h : StopsAt script events error) : StopsAt (script ++ more) events error := by
  obtain ⟨before, call, after, failure, rfl, hevents, herror⟩ := h
  exact ⟨before, call, after ++ more, failure, by simp, hevents, herror⟩

/-- The script may have been followed before. -/
theorem prepend (before : List Event) (h : StopsAt script events error) :
    StopsAt (before ++ script) (before ++ events) error := by
  obtain ⟨first, call, after, failure, rfl, rfl, herror⟩ := h
  exact ⟨before ++ first, call, after, failure, by simp, by simp, herror⟩

end StopsAt

/-- An amount, and what it comes to in a currency: an amount of that currency, and the same one if
it was in that currency before. -/
structure Conversion (target : CurrencyCode) where
  source : Money
  amount : Money
  currency_eq : amount.currency = target
  eq_source : source.currency = target → amount = source

namespace Conversion

variable {target : CurrencyCode}

/-- An amount that is in the currency, or nothing in its place. -/
def ofSource (source : Money) : Conversion target :=
  if h : source.currency = target then ⟨source, source, h, fun _ ↦ rfl⟩
  else ⟨source, .zero target, rfl, fun hsame ↦ absurd hsame h⟩

@[simp] theorem source_ofSource (source : Money) :
    (ofSource source : Conversion target).source = source := by
  unfold ofSource
  split <;> rfl

/-- The call that converts the amount, if it is in another currency. -/
def calls (c : Conversion target) : List Call :=
  if c.source.currency = target then []
  else [⟨.convert c.source target, .ok c.amount⟩]

end Conversion

/-- A line of a cart with the price of its product. -/
structure PlannedLine (target : CurrencyCode) where
  line : CartLine
  cost : Conversion target

namespace PlannedLine

variable {target : CurrencyCode}

/-- The line with the price that the catalog tells. -/
def listed (p : PlannedLine target) : PricedLine :=
  ⟨p.line, p.cost.source⟩

/-- The line with the price in the currency. -/
def priced (p : PlannedLine target) : PricedLine :=
  ⟨p.line, p.cost.amount⟩

end PlannedLine

/-- The call that gives a line its price. -/
def PricedLine.lookup (p : PricedLine) : Call :=
  ⟨.getProduct p.line.product, .ok p.cost⟩

/-- What a checkout learns before it charges anything. -/
structure Plan (request : ValidRequest) where
  cart : Cart
  lines : List (PlannedLine request.currency)
  lines_eq : lines.map PlannedLine.line = cart.lines
  shipping : Conversion request.currency

namespace Plan

variable {request : ValidRequest}

/-- The calls that tell the price of each product, in order. -/
def lookups (plan : Plan request) : List Call :=
  (plan.lines.map PlannedLine.listed).map PricedLine.lookup

/-- The call that tells the price of shipping. -/
def quoting (plan : Plan request) : Call :=
  ⟨.getQuote request.address plan.cart.lines, .ok plan.shipping.source⟩

/-- The calls that convert what is not in the currency, the lines in order and shipping last. -/
def conversions (plan : Plan request) : List Call :=
  plan.lines.flatMap (fun p ↦ p.cost.calls) ++ plan.shipping.calls

/-- All calls between the cart and the charge. -/
def inquiries (plan : Plan request) : List Call :=
  plan.lookups ++ plan.quoting :: plan.conversions

/-- All calls up to the charge. -/
def pricing (plan : Plan request) : List Call :=
  ⟨.getCart request.user, .ok plan.cart⟩ :: plan.inquiries

/-- The lines as they are ordered. -/
def pricedLines (plan : Plan request) : List PricedLine :=
  plan.lines.map PlannedLine.priced

/-- What is to be charged. -/
def total? (plan : Plan request) : Except MoneyError Money :=
  orderTotal request.currency plan.pricedLines plan.shipping.amount

/-- The order that comes of a plan. -/
def order (plan : Plan request) (id : OrderId) (total : Money) (tracking : String) : Order :=
  ⟨id, tracking, plan.shipping.amount, request.address, plan.pricedLines, total⟩

/-- All that is said before the total is formed. -/
def opening (plan : Plan request) (id : OrderId) : List Event :=
  .noted (.attribute "app.order.id" (.text id.text)) ::
    .asked ⟨.getCart request.user, .ok plan.cart⟩ ::
      .noted (.progress id .validating .cartFetched) :: plan.inquiries.map .asked

/-- The note that everything is known. -/
def prepared (plan : Plan request) : Event :=
  .noted (.event "prepared"
    [("app.order.items.count", .int plan.pricedLines.length),
      ("app.shipping.amount", .float plan.shipping.amount.toFloat)])

end Plan

namespace Checkout

/-- A line of the log about an order, as an event. -/
def logged (level : LogLevel) (id : OrderId) (message : String) (more : List (String × String)) :
    Event :=
  .noted (.line ⟨level, message, ("order_id", id.text) :: more⟩)

/-- What is said about a diversion. -/
def diverting (id : OrderId) (diverted : Bool) : List Event :=
  if diverted then [logged .warn id "fault policy redirected payment to an unreachable endpoint" []]
  else []

/-- What is said about a charge until it is answered. -/
def charging (id : OrderId) (total : Money) (card : Card) (diverted : Bool)
    (answer : Except CallFailure String) : List Event :=
  .consulted diverted :: (diverting id diverted ++ [.asked ⟨.charge total card diverted, answer⟩])

/-- What is said about a charge that was taken. -/
def charged (id : OrderId) (total : Money) (transaction : String) : List Event :=
  [.noted (.event "charged" [("app.payment.transaction.id", .text transaction)]),
    logged .info id "payment charged" [("transaction_id", transaction), ("amount", total.display)]]

/-- What is said about a charge without a shipment. -/
def chargedInVain (id : OrderId) (transaction : String) : Event :=
  logged .error id "order charged but not shipped; no refund issued"
    [("transaction_id", transaction)]

/-- What is said about emptying the cart. -/
def clearing (user : UserId) : Except CallFailure Unit → List Event
  | .ok accepted => [.asked ⟨.emptyCart user, .ok accepted⟩]
  | .error failure =>
      [.asked ⟨.emptyCart user, .error failure⟩,
        .noted (.setback (.cartClearFailed failure.toTransport))]

/-- What is said about an order that is complete. -/
def completing (order : Order) (email : String) : List Event :=
  [.noted (.attribute "app.order.amount" (.float order.totalCost.toFloat)),
    .noted (.attribute "app.order.items.count" (.int order.lines.length)),
    .noted (.attribute "app.shipping.amount" (.float order.shippingCost.toFloat)),
    .noted (.attribute "app.shipping.tracking.id" (.text order.trackingId)),
    .noted (.completed order email)]

/-- All that is said from the total to the charge. -/
def toCharge {request : ValidRequest} (plan : Plan request) (id : OrderId) (total : Money)
    (diverted : Bool) (answer : Except CallFailure String) : List Event :=
  plan.opening id ++ plan.prepared :: .noted (.progress id .cartFetched .pricedAndQuoted) ::
    charging id total request.card diverted answer

/-- All that is said up to the shipment. -/
def toShipment {request : ValidRequest} (plan : Plan request) (id : OrderId) (total : Money)
    (diverted : Bool) (transaction : String) (answer : Except CallFailure String) : List Event :=
  toCharge plan id total diverted (.ok transaction) ++ charged id total transaction ++
    [.noted (.progress id .pricedAndQuoted .charged),
      .asked ⟨.shipOrder request.address plan.cart.lines, answer⟩]

/-- All that is said about an order that was placed. -/
def toEnd {request : ValidRequest} (plan : Plan request) (id : OrderId) (total : Money)
    (diverted : Bool) (transaction tracking : String) (answer : Except CallFailure Unit) :
    List Event :=
  toShipment plan id total diverted transaction (.ok tracking) ++
    [.noted (.event "shipped" [("app.shipping.tracking.id", .text tracking)]),
      .noted (.progress id .charged .shipped)] ++
    clearing request.user answer ++ .noted (.progress id .shipped .cartCleared) ::
      (completing (plan.order id total tracking) request.email ++
        [.noted (.progress id .cartCleared .completed)])

/-- `Conforms id request events result` says that `events` are all that happens when an order of
that number is placed for the request, and `result` is what comes of it. -/
inductive Conforms (id : OrderId) (request : OrderRequest) :
    List Event → Except PlacementError Order → Prop where
  | refused {defect} :
      request.validate = .error defect → Conforms id request [] (.error (.invalidRequest defect))
  | stopped {valid events error} (plan : Plan valid) :
      request.validate = .ok valid → StopsAt (plan.opening id) events error →
      Conforms id request events (.error error)
  | unpayable {valid error} (plan : Plan valid) :
      request.validate = .ok valid → plan.total? = .error error →
      Conforms id request (plan.opening id) (.error (.invalidAmount .prepareTotal error))
  | uncharged {valid total error} (plan : Plan valid) (diverted failure) :
      request.validate = .ok valid → plan.total? = .ok total →
      (Request.charge total valid.card diverted).blame? failure = some error →
      Conforms id request (toCharge plan id total diverted (.error failure)) (.error error)
  | unshipped {valid total error} (plan : Plan valid) (diverted transaction failure) :
      request.validate = .ok valid → plan.total? = .ok total →
      (Request.shipOrder valid.address plan.cart.lines).blame? failure = some error →
      Conforms id request
        (toShipment plan id total diverted transaction (.error failure) ++
          [chargedInVain id transaction]) (.error error)
  | placed {valid total} (plan : Plan valid) (diverted transaction tracking answer) :
      request.validate = .ok valid → plan.total? = .ok total →
      Conforms id request (toEnd plan id total diverted transaction tracking answer)
        (.ok (plan.order id total tracking))

end Checkout

end Storefront
