import Storefront.Failure
import Storefront.Json.Lookup

/-!
# Reports of failures

A failure as an object of its kind, its wording, and what else is known of it. The kind is the same
for all failures of one cause.
-/

namespace Storefront

/-- An object that names a failure. -/
def report (kind message : String) (more : List (String × Json)) : Json :=
  .obj ([("error", .str kind), ("message", .str message)] ++ more)

/-- The kind of each cause. -/
def MoneyError.kind : MoneyError → String
  | .currencyMismatch .. => "CurrencyMismatch"
  | .overflow => "Overflow"
  | .invalidNanos .. => "InvalidNanos"
  | .invalidCurrencyCode _ => "InvalidCurrencyCode"
  | .nonFinite _ => "NonFinite"

/-- Kind and wording. -/
def MoneyError.toJson (e : MoneyError) : Json :=
  report e.kind e.message []

/-- The error that an object describes by its kind and what it is about, unless a currency of it is
none. -/
def MoneyError.ofReading (r : Reading) : Except MoneyError MoneyError := do
  match r.text "kind" with
  | "CurrencyMismatch" =>
      return .currencyMismatch (← CurrencyCode.parse (r.text "left"))
        (← CurrencyCode.parse (r.text "right"))
  | "Overflow" => return .overflow
  | "InvalidNanos" => return .invalidNanos (r.int "units") (r.int "nanos")
  | "InvalidCurrencyCode" => return .invalidCurrencyCode (r.text "code")
  | _ =>
      let value := Float.ofBits (UInt64.ofNat (r.hex "bits"))
      return .nonFinite ((Binary64.nonFinite? value).getD .nan)

/-- The kind of each defect. -/
def RequestDefect.kind : RequestDefect → String
  | .missingUser => "MissingUserId"
  | .missingCurrency => "MissingCurrency"
  | .invalidCurrency _ => "InvalidCurrency"
  | .missingAddress => "MissingAddress"
  | .incompleteAddress _ => "IncompleteAddress"
  | .missingCard => "MissingCreditCard"
  | .incompleteCard _ => "IncompleteCreditCard"

/-- Kind and wording. -/
def RequestDefect.toJson (d : RequestDefect) : Json :=
  report d.kind d.message []

namespace TransportError

/-- The kind of each failed call. -/
def kind : TransportError → String
  | .unavailable _ => "Unavailable"
  | .deadlineExceeded => "DeadlineExceeded"
  | .cancelled => "Cancelled"
  | .status .. => "Status"
  | .invalidResponse _ => "InvalidResponse"
  | .encode _ => "Encode"

/-- Kind and wording. -/
def toJson (e : TransportError) : Json :=
  report e.kind e.message []

/-- The failed call that an object describes by its kind, a message, and a code. -/
def ofReading (r : Reading) : TransportError :=
  match r.text "kind" with
  | "Unavailable" => .unavailable (r.text "message")
  | "DeadlineExceeded" => .deadlineExceeded
  | "Cancelled" => .cancelled
  | "Status" => .status (r.nat "code") (r.text "message")
  | "InvalidResponse" => .invalidResponse (r.text "message")
  | _ => .encode (r.text "message")

end TransportError

/-- Kind, wording, and the failed call that an interruption amounts to. -/
def Interruption.toJson (i : Interruption) : Json :=
  report i.toTransport.kind i.message [("transport", i.toTransport.toJson)]

/-- The defect that an object describes by its kind and what it is about. -/
def RequestDefect.ofReading (r : Reading) : RequestDefect :=
  match r.text "kind" with
  | "MissingUserId" => .missingUser
  | "MissingCurrency" => .missingCurrency
  | "InvalidCurrency" => .invalidCurrency (r.text "code")
  | "MissingAddress" => .missingAddress
  | "IncompleteAddress" => .incompleteAddress (r.text "field")
  | "MissingCreditCard" => .missingCard
  | _ => .incompleteCard (r.text "field")

namespace PlacementError

/-- The kind of each failed placement. -/
def kind : PlacementError → String
  | .invalidRequest _ => "InvalidRequest"
  | .cartUnavailable .. => "CartUnavailable"
  | .catalogUnavailable .. => "CatalogUnavailable"
  | .pricingUnavailable .. => "PricingUnavailable"
  | .shippingQuoteFailed _ => "ShippingQuoteFailed"
  | .paymentFailed _ => "PaymentFailed"
  | .shippingFailed _ => "ShippingFailed"
  | .invalidAmount .. => "InvalidAmount"
  | .cancelled _ => "Cancelled"
  | .deadlineExceeded _ => "DeadlineExceeded"

/-- Kind, wording, step, and the kind of the failed call behind it. -/
def toJson (e : PlacementError) : Json :=
  report e.kind e.message
    [("step", .str e.step.name),
      ("transport", ((e.transport?.map fun t ↦ Json.str t.kind).getD .null))]

end PlacementError

namespace BestEffortError

/-- The kind of each failed step. -/
def kind : BestEffortError → String
  | .cartClearFailed _ => "CartClearFailed"
  | .notificationFailed _ => "NotificationFailed"
  | .eventPublishFailed _ => "EventPublishFailed"

/-- Kind, wording, and step. -/
def toJson (e : BestEffortError) : Json :=
  report e.kind e.message [("step", .str e.step.name)]

end BestEffortError

namespace DecodeError

/-- A problem has a wording that tells all there is to tell. -/
def isWorded : Problem → Bool
  | .wrongLength | .unreadable => false
  | .money (.invalidCurrencyCode _) | .money (.invalidNanos ..) => true
  | .money _ => false
  | _ => true

/-- Whether a text ended early, is no JSON, or has the wrong content, and the problem if it has a
wording. -/
def toJson : DecodeError → Json
  | .fault .ended => .obj [("error", .str "Decode"), ("category", .str "eof")]
  | .fault .malformed | .shape _ =>
      .obj [("error", .str "Decode"), ("category", .str "syntax")]
  | .content _ problem =>
      .obj ([("error", .str "Decode"), ("category", .str "data")] ++
        if isWorded problem then [("message", .str problem.message)] else [])

end DecodeError

end Storefront
