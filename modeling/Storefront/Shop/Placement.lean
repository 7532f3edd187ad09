import Storefront.Checkout.Placement
import Storefront.Shop.Background

/-!
# Placing orders in a shop

What becomes of a dialogue when the collaborators of a shop answer it. `converse` runs a dialogue,
letting time pass while it waits; whoever runs it may abandon it at a moment, and then it ends where
it waits. `place` is the run of a checkout with its span, its measurements, and its last line in the
log. Confirmation and announcement are left to the background, on behalf of the order's span but
without the limits of the request.
-/

namespace Storefront.Shop

/-- Wait up to a moment, or up to an earlier one at which the work is abandoned. Say whether it goes
on. -/
def waitOrAbandon (shop : Shop) (abandonAt : Option Nat) (moment : Nat) : Bool × Shop :=
  if moment ≤ shop.clock then (true, shop)
  else
    match abandonAt with
    | some early =>
        if early < moment then (false, shop.waitUntil early) else (true, shop.waitUntil moment)
    | none => (true, shop.waitUntil moment)

/-- Ask a collaborator and wait for the answer. There is none if the work is abandoned. -/
def call (shop : Shop) (caller : Caller) (abandonAt : Option Nat) (request : Request) :
    Option (Except CallFailure request.Accepted) × Shop :=
  let (sent, shop) := shop.send caller request
  let (goesOn, shop) := shop.waitOrAbandon abandonAt sent.time
  if goesOn then
    let (answer, shop) := shop.settle request sent
    (some answer, shop)
  else (none, shop.finishSpan sent.span)

/-- Announce an order and wait for the receipt. There is none if the work is abandoned. -/
def announce (shop : Shop) (caller : Caller) (abandonAt : Option Nat) (order : Order) :
    Option (Except BestEffortError Receipt) × Shop :=
  let ((sent, message), shop) := shop.beginAnnouncement caller order
  let (goesOn, shop) := shop.waitOrAbandon abandonAt sent.time
  if goesOn then
    let (receipt, shop) := shop.endAnnouncement sent message
    (some receipt, shop)
  else (none, shop.finishSpan sent.span)

/-- Start a task in the background. -/
def startTask (shop : Shop) (task : Task) : Shop :=
  { shop with tasks := shop.tasks ++ [task] }

/-- Have an order confirmed, if there is an address to confirm it to. -/
def startConfirmation (shop : Shop) (caller : Caller) (order : Order) (email : String) : Shop :=
  if email = "" then
    shop.say ⟨.info, "no email on request; skipping confirmation", [("order_id", order.id.text)]⟩
  else
    let caller := caller.withDeadline (shop.clock + shop.settings.notificationTimeout)
    shop.startTask (.confirmation caller ⟨email, order⟩ none)

/-- Have an order announced once and as often again as faults ask for, if orders are announced at
all. -/
def startAnnouncement (shop : Shop) (caller : Caller) (order : Order) : Shop :=
  if shop.announces then
    shop.startTask (.announcement caller order (1 + shop.faults.extra) none)
  else shop

/-- Have an order confirmed and announced, free of the limits of the request. -/
def followUp (shop : Shop) (caller : Caller) (order : Order) (email : String) : Shop :=
  let caller := caller.detached
  (shop.reap.startConfirmation caller order email).startAnnouncement caller order

/-- What a note does to the span of the order and to the shop. -/
def note (shop : Shop) (caller : Caller) (span : Span) : Note → Span × Shop
  | .attribute key value => (span.setAttribute key value, shop)
  | .event name attributes => (span.addEvent name attributes, shop)
  | .line line => (span, shop.say line)
  | .progress id source target =>
      (span, shop.say ⟨.debug, "checkout state changed",
        [("order_id", id.text), ("from", source.name), ("to", target.name)]⟩)
  | .setback error =>
      (span.addEvent (error.step.name ++ " failed") [("exception.message", .text error.message)],
        shop.setback error)
  | .completed order email => (span, shop.followUp caller order email)

/-- Run a dialogue with the collaborators of a shop. There is no value if it is abandoned. -/
def converse {α : Type} (caller : Caller) (abandonAt : Option Nat) :
    Dialogue α → Span → Shop → Option α × Span × Shop
  | .done value, span, shop => (some value, span, shop)
  | .ask request next, span, shop =>
      match shop.call caller abandonAt request with
      | (some answer, shop) => converse caller abandonAt (next answer) span shop
      | (none, shop) => (none, span, shop)
  | .consult next, span, shop =>
      converse caller abandonAt (next shop.faults.divert) span shop
  | .note n next, span, shop =>
      let (span, shop) := shop.note caller span n
      converse caller abandonAt next span shop

/-- Note that an order was placed. -/
def placed (shop : Shop) (order : Order) : Shop :=
  shop.say ⟨.info, "order placed",
    [("order_id", order.id.text), ("total", order.totalCost.display),
      ("tracking_id", order.trackingId)]⟩

/-- Note that an order was not placed. -/
def refused (shop : Shop) (error : PlacementError) : Shop :=
  (shop.measure (.orderFailed error.step)).say
    ⟨.warn, "order placement failed", [("step", error.step.name), ("error", error.message)]⟩

/-- Begin an order: count it, give it a number, and start its span. -/
def openOrder (shop : Shop) (caller : Caller) (request : OrderRequest) : Span × Shop :=
  let shop := { shop.measure .orderBegun with orders := shop.orders + 1 }
  let (span, shop) := shop.startSpan "PlaceOrder" .server caller.context.parent
  (span.setAttributes
    [("app.user.id", .text request.user.text), ("app.user.currency", .text request.currency)], shop)

/-- End an order: note and count how it went, and finish its span. -/
def closeOrder (shop : Shop) (span : Span) : Except PlacementError Order → Shop
  | .ok order => ((shop.placed order).measure .orderTimed).finishSpan span
  | .error error => ((shop.refused error).measure .orderTimed).finishSpan (span.fail error.message)

/-- Place an order on behalf of a caller. There is no result if it is abandoned. -/
def place (shop : Shop) (caller : Caller) (abandonAt : Option Nat) (request : OrderRequest) :
    Option (Except PlacementError Order) × Shop :=
  let (span, opened) := shop.openOrder caller request
  let caller := caller.withParent span.context
  match converse caller abandonAt (Checkout.placeOrder shop.nextOrder request).run span opened with
  | (none, span, shop) => (none, shop.finishSpan span)
  | (some result, span, shop) => (some result, shop.closeOrder span result)

end Storefront.Shop
