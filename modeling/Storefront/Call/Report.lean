import Storefront.Call.Record
import Storefront.Call.Request
import Storefront.Order.Json
import Storefront.Trace.Report

/-!
# Reports of calls

Replies and call records as JSON.
-/

namespace Storefront

/-- The members of a reply. A conversion is told as the amount alone, and nothing is told of a cart
that was emptied or a confirmation that was sent. -/
def Request.replyJson : (r : Request) → r.Reply → Json
  | .getCart _, cart =>
      .obj [("user_id", cart.user.toJson), ("items", .arr (cart.lines.map CartLine.toJson))]
  | .getProduct _, product =>
      .obj [("id", product.product.toJson), ("name", .str product.name),
        ("price", (product.price.map Money.toJson).getD .null)]
  | .getQuote .., cost => .obj [("cost", (cost.map Money.toJson).getD .null)]
  | .convert .., amount => Money.toJson amount
  | .charge .., transaction => .obj [("transaction_id", .str transaction)]
  | .shipOrder .., tracking => .obj [("tracking_id", .str tracking)]
  | .emptyCart _, _ => .null
  | .confirm _, _ => .null

/-- Service, method, and context. -/
def CallRecord.toJson (r : CallRecord) : Json :=
  .obj [("service", .str r.service), ("method", .str r.method), ("context", r.context.toJson)]

end Storefront
