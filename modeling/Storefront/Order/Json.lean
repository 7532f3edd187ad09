import Storefront.Json.Decoder
import Storefront.Order.Basic

/-!
# Carts and orders as JSON

For each type a writer `toJson` and a reader `decoder` with the same field names in the same order.
A reader is built from the `Fields` of its record, so a field is named once for reading. The amounts
and codes are checked when they are read: what is read is always a valid amount.
-/

namespace Storefront

/-- Codes are written as text. -/
def CurrencyCode.toJson (code : CurrencyCode) : Json :=
  .str code.text

/-- Codes are read in either case. -/
def CurrencyCode.decoder : Decoder CurrencyCode :=
  Decoder.string.check fun s ↦ (CurrencyCode.parse s).mapError .money

/-- A 64-bit integer. -/
def Decoder.int64 : Decoder Int :=
  Decoder.integer (-9223372036854775808) 9223372036854775807

/-- A 32-bit integer. -/
def Decoder.int32 : Decoder Int :=
  Decoder.integer (-2147483648) 2147483647

/-- A 32-bit natural number. -/
def Decoder.uint32 : Decoder UInt32 :=
  (Decoder.natural (Nat.pow 2 32)).map UInt32.ofNat

namespace Money

/-- Code, units, and nanos. -/
def toJson (m : Money) : Json :=
  .obj [("currency_code", m.currency.toJson), ("units", .int m.units), ("nanos", .int m.nanos)]

/-- The fields of an amount. -/
def fields : Fields [CurrencyCode, Int, Int] :=
  .cons "currency_code" CurrencyCode.decoder none <|
  .cons "units" Decoder.int64 none <|
  .cons "nanos" Decoder.int32 none .nil

/-- An amount with well-formed parts. -/
def decoder : Decoder Money :=
  fields.decode.check fun (code, units, nanos, _) ↦
    (Money.ofParts code units nanos).mapError .money

end Money

/-- Order numbers are written with hyphens. -/
def OrderId.toJson (id : OrderId) : Json :=
  .str id.text

/-- Order numbers are read in any of their forms. -/
def OrderId.decoder : Decoder OrderId :=
  Decoder.string.check fun s ↦
    match OrderId.parse? s with
    | some id => .ok id
    | none => .error .unreadable

/-- User names are texts. -/
def UserId.toJson (user : UserId) : Json :=
  .str user.text

/-- Any text names a user. -/
def UserId.decoder : Decoder UserId :=
  Decoder.string.map UserId.mk

/-- Product names are texts. -/
def ProductId.toJson (product : ProductId) : Json :=
  .str product.text

/-- Any text names a product. -/
def ProductId.decoder : Decoder ProductId :=
  Decoder.string.map ProductId.mk

namespace Address

/-- The five lines of an address. -/
def toJson (a : Address) : Json :=
  .obj [("street_address", .str a.street), ("city", .str a.city), ("state", .str a.state),
    ("country", .str a.country), ("zip_code", .str a.zip)]

/-- The fields of an address. -/
def fields : Fields [String, String, String, String, String] :=
  .cons "street_address" Decoder.string none <|
  .cons "city" Decoder.string none <|
  .cons "state" Decoder.string none <|
  .cons "country" Decoder.string none <|
  .cons "zip_code" Decoder.string none .nil

/-- An address. -/
def decoder : Decoder Address :=
  fields.decode.map fun (street, city, state, country, zip, _) ↦
    ⟨street, city, state, country, zip⟩

end Address

namespace Card

/-- Number, check value, and expiry. -/
def toJson (c : Card) : Json :=
  .obj [("credit_card_number", .str c.number), ("credit_card_cvv", .int c.cvv.toNat),
    ("credit_card_expiration_year", .int c.expirationYear.toInt),
    ("credit_card_expiration_month", .int c.expirationMonth.toNat)]

/-- The fields of a card. -/
def fields : Fields [String, UInt32, Int, UInt32] :=
  .cons "credit_card_number" Decoder.string none <|
  .cons "credit_card_cvv" Decoder.uint32 none <|
  .cons "credit_card_expiration_year" Decoder.int32 none <|
  .cons "credit_card_expiration_month" Decoder.uint32 none .nil

/-- A card. -/
def decoder : Decoder Card :=
  fields.decode.map fun (number, cvv, year, month, _) ↦ ⟨number, cvv, Int32.ofInt year, month⟩

end Card

namespace CartLine

/-- Product and quantity. -/
def toJson (line : CartLine) : Json :=
  .obj [("product_id", line.product.toJson), ("quantity", .int line.quantity.toNat)]

/-- The fields of a cart line. -/
def fields : Fields [ProductId, UInt32] :=
  .cons "product_id" ProductId.decoder none <|
  .cons "quantity" Decoder.uint32 none .nil

/-- A cart line, orderable or not. -/
def decoder : Decoder CartLine :=
  fields.decode.map fun (product, quantity, _) ↦ ⟨product, quantity⟩

end CartLine

namespace PricedLine

/-- The line and the price of one piece. -/
def toJson (p : PricedLine) : Json :=
  .obj [("item", p.line.toJson), ("cost", p.cost.toJson)]

/-- The fields of a priced line. -/
def fields : Fields [CartLine, Money] :=
  .cons "item" CartLine.decoder none <|
  .cons "cost" Money.decoder none .nil

/-- A priced line. -/
def decoder : Decoder PricedLine :=
  fields.decode.map fun (line, cost, _) ↦ ⟨line, cost⟩

end PricedLine

/-- A record whose one field is an amount: the price of shipping an order. -/
structure ShippingQuote where
  cost : Money
  deriving DecidableEq

namespace ShippingQuote

/-- The price. -/
def toJson (q : ShippingQuote) : Json :=
  .obj [("cost", q.cost.toJson)]

/-- The fields of a quote. -/
def fields : Fields [Money] :=
  .cons "cost" Money.decoder none .nil

/-- A quote. -/
def decoder : Decoder ShippingQuote :=
  fields.decode.map fun (cost, _) ↦ ⟨cost⟩

end ShippingQuote

/-- A record whose one field names a payment that was taken. -/
structure ChargeReceipt where
  transactionId : String
  deriving DecidableEq

namespace ChargeReceipt

/-- The name of the payment. -/
def toJson (c : ChargeReceipt) : Json :=
  .obj [("transaction_id", .str c.transactionId)]

/-- The fields of a receipt. -/
def fields : Fields [String] :=
  .cons "transaction_id" Decoder.string none .nil

/-- A receipt. -/
def decoder : Decoder ChargeReceipt :=
  fields.decode.map fun (id, _) ↦ ⟨id⟩

end ChargeReceipt

namespace Order

/-- Number, tracking, shipping, lines, and total. -/
def toJson (o : Order) : Json :=
  .obj [("order_id", o.id.toJson), ("shipping_tracking_id", .str o.trackingId),
    ("shipping_cost", o.shippingCost.toJson), ("shipping_address", o.shippingAddress.toJson),
    ("items", .arr (o.lines.map PricedLine.toJson)), ("total_cost", o.totalCost.toJson)]

/-- The fields of an order. -/
def fields : Fields [OrderId, String, Money, Address, List PricedLine, Money] :=
  .cons "order_id" OrderId.decoder none <|
  .cons "shipping_tracking_id" Decoder.string none <|
  .cons "shipping_cost" Money.decoder none <|
  .cons "shipping_address" Address.decoder none <|
  .cons "items" (Decoder.list PricedLine.decoder) none <|
  .cons "total_cost" Money.decoder none .nil

/-- An order. -/
def decoder : Decoder Order :=
  fields.decode.map fun (id, tracking, cost, address, lines, total, _) ↦
    ⟨id, tracking, cost, address, lines, total⟩

end Order

namespace Confirmation

/-- Recipient and order. -/
def toJson (c : Confirmation) : Json :=
  .obj [("email", .str c.email), ("order", c.order.toJson)]

/-- The fields of a confirmation. -/
def fields : Fields [String, Order] :=
  .cons "email" Decoder.string none <|
  .cons "order" Order.decoder none .nil

/-- A confirmation. -/
def decoder : Decoder Confirmation :=
  fields.decode.map fun (email, order, _) ↦ ⟨email, order⟩

end Confirmation

end Storefront
