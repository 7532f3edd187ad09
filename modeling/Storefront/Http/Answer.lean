import Storefront.Failure

/-!
# Answers of the order service

The status and the body that tell a customer how an order request ended. A body that could not be
read is the customer's fault, a declined card asks for payment, an interruption is a timeout, and
any other failed collaborator is a bad gateway.
-/

namespace Storefront

/-- Why an order request was answered with an error. -/
inductive ServiceError where
  | badRequest (message : String)
  | placement (error : PlacementError)
  deriving DecidableEq

namespace ServiceError

/-- The wording of the error. -/
def message : ServiceError → String
  | .badRequest message => message
  | .placement error => error.message

/-- The wordings of what lies behind the error. -/
def causes : ServiceError → List String
  | .badRequest _ => []
  | .placement error => error.causes

/-- The status of the answer. -/
def status : ServiceError → Nat
  | .badRequest _ => 400
  | .placement error =>
      match error with
      | .invalidRequest _ => 400
      | .paymentFailed _ => 402
      | .cancelled _ | .deadlineExceeded _ => 504
      | .cartUnavailable .. | .catalogUnavailable .. | .pricingUnavailable ..
      | .shippingQuoteFailed _ | .shippingFailed _ => 502
      | .invalidAmount .. => 500

/-- The body of the answer: the wording, and the step if the placement had begun. -/
def body : ServiceError → Json
  | .badRequest message => .obj [("error", .str message)]
  | .placement error =>
      .obj [("error", .str error.message), ("step", .str error.step.name)]

end ServiceError

end Storefront
