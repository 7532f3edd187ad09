import Storefront.Identifier
import Storefront.Money
import Storefront.Text.Tail

/-!
# Carts and orders

What a customer has in the cart, where it goes, what it is paid with, and the order that comes of
it. A `Cart` holds only lines with a named product and a positive quantity; `Cart.ofLines` is the
check. The last main definition, `orderTotal`, adds the line totals from left to right and then the
shipping cost.
-/

namespace Storefront

/-- A shipping destination. -/
structure Address where
  street : String
  city : String
  state : String
  country : String
  zip : String
  deriving DecidableEq

/-- A payment card. -/
structure Card where
  number : String
  cvv : UInt32
  expirationYear : Int32
  expirationMonth : UInt32
  deriving DecidableEq

namespace Card

/-- The last four characters of the number, or all of them if there are fewer, without the blanks
around the number. -/
def lastFour (card : Card) : String :=
  Text.tail 3 (Text.trim card.number)

/-- The card as it may be shown in a diagnostic: the tail of the number and the expiry. -/
def debug (card : Card) : String :=
  "CreditCardInfo \x7b credit_card_number: ****" ++ card.lastFour ++
    ", credit_card_expiration_month: " ++ Text.decimal card.expirationMonth.toNat ++
    ", credit_card_expiration_year: " ++ Text.decimalInt card.expirationYear.toInt ++ ", .. \x7d"

end Card

/-- A product and how many of it. -/
structure CartLine where
  product : ProductId
  quantity : UInt32
  deriving DecidableEq

/-- A line may be ordered: its product has a name and its quantity is not zero. -/
def CartLine.Orderable (line : CartLine) : Prop :=
  Text.isBlankText line.product.text = false ∧ line.quantity ≠ 0

/-- `CartLine.Orderable` is decidable by comparing both parts. -/
instance (line : CartLine) : Decidable line.Orderable :=
  inferInstanceAs (Decidable (_ ∧ _))

/-- The contents of a cart at the start of a checkout. -/
structure Cart where
  lines : List CartLine
  orderable : ∀ line ∈ lines, line.Orderable

/-- Why lines are not a cart that can be ordered. -/
inductive CartDefect where
  | blankProduct (quantity : UInt32)
  | zeroQuantity (product : ProductId)
  deriving DecidableEq

/-- The wording of each defect. -/
def CartDefect.message : CartDefect → String
  | .blankProduct quantity =>
      "cart line with blank product id (quantity " ++ Text.decimal quantity.toNat ++ ")"
  | .zeroQuantity product => "cart line for " ++ product.text ++ " has zero quantity"

/-- The first defect: a blank product anywhere comes before a zero quantity anywhere. -/
def CartDefect.find? (lines : List CartLine) : Option CartDefect :=
  ((lines.find? fun line ↦ Text.isBlankText line.product.text).map
      fun line ↦ .blankProduct line.quantity).or
    ((lines.find? fun line ↦ line.quantity == 0).map fun line ↦ .zeroQuantity line.product)

/-- Lines without a defect can be ordered. -/
theorem CartDefect.orderable_of_find?_eq_none {lines : List CartLine}
    (h : CartDefect.find? lines = none) : ∀ line ∈ lines, line.Orderable := by
  intro line hline
  simp only [CartDefect.find?, Option.or_eq_none_iff, Option.map_eq_none_iff,
    List.find?_eq_none, beq_iff_eq, Bool.not_eq_true] at h
  exact ⟨h.1 line hline, h.2 line hline⟩

/-- The cart that lines make up, unless one of them has a defect. -/
def Cart.ofLines (lines : List CartLine) : Except CartDefect Cart :=
  match h : CartDefect.find? lines with
  | some defect => .error defect
  | none => .ok ⟨lines, CartDefect.orderable_of_find?_eq_none h⟩

/-- A cart line with the price of one piece. -/
structure PricedLine where
  line : CartLine
  cost : Money
  deriving DecidableEq

/-- The price of one piece times the quantity. -/
def PricedLine.total (p : PricedLine) : Except MoneyError Money :=
  p.cost.multiply p.line.quantity.toNat

/-- An order that has been paid for and handed to the carrier. -/
structure Order where
  id : OrderId
  trackingId : String
  shippingCost : Money
  shippingAddress : Address
  lines : List PricedLine
  totalCost : Money
  deriving DecidableEq

/-- The message to a customer about an order. -/
structure Confirmation where
  email : String
  order : Order
  deriving DecidableEq

/-- What an order costs in a currency: all line totals, their sum from left to right, and the
shipping cost. -/
def orderTotal (currency : CurrencyCode) (lines : List PricedLine) (shipping : Money) :
    Except MoneyError Money := do
  let totals ← lines.mapM PricedLine.total
  let goods ← Money.sum currency totals
  goods.add shipping

end Storefront
