import Storefront.Order.Request
import Storefront.Progress

/-!
# Failures

What can go wrong with a call, with the placement of an order, and with the work that follows an
order. Each failure is a cause; its wording is `message`, the step that it names is `step`, and
`causes` are the wordings of what lies behind it.
-/

namespace Storefront

/-- A failure to reach a collaborator or to understand its answer. -/
inductive TransportError where
  | unavailable (reason : String)
  | deadlineExceeded
  | cancelled
  | status (code : Nat) (message : String)
  | invalidResponse (reason : String)
  | encode (reason : String)
  deriving DecidableEq

/-- The wording of a failed call. -/
def TransportError.message : TransportError → String
  | .unavailable reason => "collaborator unavailable: " ++ reason
  | .deadlineExceeded => "deadline exceeded"
  | .cancelled => "call cancelled"
  | .status code message => "status " ++ Text.decimal code ++ ": " ++ message
  | .invalidResponse reason => "invalid response: " ++ reason
  | .encode reason => "failed to encode request: " ++ reason

/-- Why a call was abandoned by its caller. -/
inductive Interruption where
  | cancelled
  | deadlineExceeded
  deriving DecidableEq

namespace Interruption

/-- The wording of an interruption. -/
def message : Interruption → String
  | .cancelled => "request cancelled"
  | .deadlineExceeded => "request deadline exceeded"

/-- The failed call that an interruption amounts to. -/
def toTransport : Interruption → TransportError
  | .cancelled => .cancelled
  | .deadlineExceeded => .deadlineExceeded

end Interruption

/-- Why a call gave no usable answer: its caller was interrupted, or the call itself failed. -/
inductive CallFailure where
  | interrupted (reason : Interruption)
  | transport (error : TransportError)
  deriving DecidableEq

namespace CallFailure

/-- The wording of what lies behind the failure. -/
def message : CallFailure → String
  | .interrupted reason => reason.message
  | .transport error => error.message

/-- The failed call, an interruption counting as one. -/
def toTransport : CallFailure → TransportError
  | .interrupted reason => reason.toTransport
  | .transport error => error

end CallFailure

/-- Why an order was not placed. -/
inductive PlacementError where
  | invalidRequest (defect : RequestDefect)
  | cartUnavailable (user : UserId) (error : TransportError)
  | catalogUnavailable (product : ProductId) (error : TransportError)
  | pricingUnavailable (source target : CurrencyCode) (error : TransportError)
  | shippingQuoteFailed (error : TransportError)
  | paymentFailed (error : TransportError)
  | shippingFailed (error : TransportError)
  | invalidAmount (step : Step) (error : MoneyError)
  | cancelled (step : Step)
  | deadlineExceeded (step : Step)
  deriving DecidableEq

namespace PlacementError

/-- The wording of a failed placement. -/
def message : PlacementError → String
  | .invalidRequest defect => "Invalid request: " ++ defect.message
  | .cartUnavailable user error =>
      "Failed to get cart for user " ++ user.text ++ ": " ++ error.message
  | .catalogUnavailable product error =>
      "Failed to get product " ++ product.text ++ ": " ++ error.message
  | .pricingUnavailable source target error =>
      "Failed to convert " ++ source.text ++ " to " ++ target.text ++ ": " ++ error.message
  | .shippingQuoteFailed error => "Failed to get shipping quote: " ++ error.message
  | .paymentFailed error => "Failed to charge card: " ++ error.message
  | .shippingFailed error => "Failed to ship order: " ++ error.message
  | .invalidAmount step error =>
      "Failed to compute order amount at " ++ step.name ++ ": " ++ error.message
  | .cancelled step => "Request cancelled during " ++ step.name
  | .deadlineExceeded step => "Deadline exceeded during " ++ step.name

/-- The step that failed. -/
def step : PlacementError → Step
  | .invalidRequest _ => .validate
  | .cartUnavailable .. => .getCart
  | .catalogUnavailable .. => .getProduct
  | .pricingUnavailable .. => .convertCurrency
  | .shippingQuoteFailed _ => .quoteShipping
  | .paymentFailed _ => .chargePayment
  | .shippingFailed _ => .shipOrder
  | .invalidAmount step _ => step
  | .cancelled step => step
  | .deadlineExceeded step => step

/-- The failed call behind the failure, if there is one. -/
def transport? : PlacementError → Option TransportError
  | .cartUnavailable _ error | .catalogUnavailable _ error | .pricingUnavailable _ _ error
  | .shippingQuoteFailed error | .paymentFailed error | .shippingFailed error => some error
  | .invalidRequest _ | .invalidAmount .. | .cancelled _ | .deadlineExceeded _ => none

/-- The wordings of what lies behind the failure. -/
def causes : PlacementError → List String
  | .invalidRequest defect => [defect.message]
  | .invalidAmount _ error => [error.message]
  | e => (e.transport?.map TransportError.message).toList

/-- The failure of a step whose call was not answered: an interruption names the step, and a failed
call is wrapped in the step's own error. -/
def ofCall (step : Step) (wrap : TransportError → PlacementError) : CallFailure → PlacementError
  | .interrupted .cancelled => .cancelled step
  | .interrupted .deadlineExceeded => .deadlineExceeded step
  | .transport error => wrap error

end PlacementError

/-- The failure of a step that never fails an order. -/
inductive BestEffortError where
  | cartClearFailed (error : TransportError)
  | notificationFailed (error : TransportError)
  | eventPublishFailed (error : TransportError)
  deriving DecidableEq

namespace BestEffortError

/-- The failed call. -/
def transport : BestEffortError → TransportError
  | .cartClearFailed error | .notificationFailed error | .eventPublishFailed error => error

/-- The wording of a failed best-effort step. -/
def message : BestEffortError → String
  | .cartClearFailed error => "Failed to empty cart: " ++ error.message
  | .notificationFailed error => "Failed to send order confirmation: " ++ error.message
  | .eventPublishFailed error => "Failed to publish order event: " ++ error.message

/-- The step that failed. -/
def step : BestEffortError → Step
  | .cartClearFailed _ => .emptyCart
  | .notificationFailed _ => .sendConfirmation
  | .eventPublishFailed _ => .publishEvent

end BestEffortError

end Storefront
