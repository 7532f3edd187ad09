import Storefront.Json.Decoder

/-!
# Steps and stages of a checkout

The steps that a checkout takes, which name its failures, and the stages that it passes. Failure of
one of the last three steps never fails the order. The stages form a chain by `Stage.next?`, and
payment has been taken from `charged` on.
-/

namespace Storefront

/-- A step of a checkout. -/
inductive Step where
  | validate
  | getCart
  | getProduct
  | convertCurrency
  | quoteShipping
  | prepareTotal
  | chargePayment
  | shipOrder
  | emptyCart
  | sendConfirmation
  | publishEvent
  deriving DecidableEq

namespace Step

/-- The name of a step. -/
def name : Step → String
  | .validate => "validate"
  | .getCart => "get_cart"
  | .getProduct => "get_product"
  | .convertCurrency => "convert_currency"
  | .quoteShipping => "quote_shipping"
  | .prepareTotal => "prepare_total"
  | .chargePayment => "charge_payment"
  | .shipOrder => "ship_order"
  | .emptyCart => "empty_cart"
  | .sendConfirmation => "send_confirmation"
  | .publishEvent => "publish_event"

/-- All steps, in the order in which a checkout takes them. -/
def all : List Step :=
  [.validate, .getCart, .getProduct, .convertCurrency, .quoteShipping, .prepareTotal,
    .chargePayment, .shipOrder, .emptyCart, .sendConfirmation, .publishEvent]

/-- Failure of the step is recorded and does not fail the order. -/
def isBestEffort : Step → Bool
  | .emptyCart | .sendConfirmation | .publishEvent => true
  | _ => false

/-- Steps are written by name. -/
def toJson (s : Step) : Json :=
  .str s.name

/-- A step by name. -/
def decoder : Decoder Step :=
  Decoder.variant (all.map fun s ↦ (s.name, s))

end Step

/-- A stage of a checkout. -/
inductive Stage where
  | validating
  | cartFetched
  | pricedAndQuoted
  | charged
  | shipped
  | cartCleared
  | completed
  deriving DecidableEq

namespace Stage

/-- The name of a stage. -/
def name : Stage → String
  | .validating => "Validating"
  | .cartFetched => "CartFetched"
  | .pricedAndQuoted => "PricedAndQuoted"
  | .charged => "Charged"
  | .shipped => "Shipped"
  | .cartCleared => "CartCleared"
  | .completed => "Completed"

/-- All stages, in order. -/
def all : List Stage :=
  [.validating, .cartFetched, .pricedAndQuoted, .charged, .shipped, .cartCleared, .completed]

/-- The stage after, if there is one. -/
def next? : Stage → Option Stage
  | .validating => some .cartFetched
  | .cartFetched => some .pricedAndQuoted
  | .pricedAndQuoted => some .charged
  | .charged => some .shipped
  | .shipped => some .cartCleared
  | .cartCleared => some .completed
  | .completed => none

/-- The position of a stage in the chain. -/
def rank : Stage → Nat
  | .validating => 0
  | .cartFetched => 1
  | .pricedAndQuoted => 2
  | .charged => 3
  | .shipped => 4
  | .cartCleared => 5
  | .completed => 6

/-- Payment has been taken. -/
def isCharged (s : Stage) : Bool :=
  Stage.charged.rank ≤ s.rank

/-- There is no stage after. -/
def isTerminal (s : Stage) : Bool :=
  s.next?.isNone

/-- A stage and all stages after it, in order. -/
def chain (s : Stage) : List Stage :=
  all.drop s.rank

/-- Stages are written by name. -/
def toJson (s : Stage) : Json :=
  .str s.name

/-- A stage by name. -/
def decoder : Decoder Stage :=
  Decoder.variant (all.map fun s ↦ (s.name, s))

end Stage

end Storefront
