import Storefront.Shop

/-!
# The demonstration shop

A shop with nine products, a fixed price of shipping, and one customer with a full cart. It records
no calls and keeps only as many charges, shipments, confirmations, and messages as its settings say.
-/

namespace Storefront.Shop.Demo

/-- The products: name, title, and the price in hundredths of a dollar. -/
def products : List (String × String × Nat) :=
  [("OLJCESPC7Z", "Sunglasses", 1999), ("66VCHSJNUP", "Tank Top", 1899),
    ("1YMWWN1N4O", "Watch", 10999), ("L9ECAV7KIM", "Loafers", 8999),
    ("2ZYFJ3GM2N", "Hairdryer", 2499), ("0PUK6V6EV0", "Candle Holder", 1899),
    ("LS4PSXUNUM", "Salt & Pepper Shakers", 1849), ("9SIQT8TOJO", "Bamboo Glass Jar", 549),
    ("6E92ZMYYFZ", "Mug", 899)]

/-- An amount in hundredths of a dollar. -/
def cents (n : Nat) : Except MoneyError Money :=
  Money.ofTotal CurrencyCode.usd (n * 10000000)

/-- The price of shipping. -/
def shippingPrice : Money :=
  ⟨CurrencyCode.usd, 8, 990000000, by decide⟩

/-- The catalog. -/
def catalog : Catalog :=
  products.foldl (fun c (name, title, price) ↦ c.add ⟨⟨name⟩, title, (cents price).toOption⟩) .empty

/-- The customer whose cart is full. -/
def customer : UserId :=
  ⟨"demo-user"⟩

/-- Put two products into the cart of a user. -/
def fillCart (carts : Carts) (user : UserId) : Carts :=
  (carts.add user ⟨⟨"OLJCESPC7Z"⟩, 1⟩).add user ⟨⟨"66VCHSJNUP"⟩, 2⟩

/-- The collaborators. Confirmations are sent elsewhere if the settings name an address. -/
def collaborators (settings : Settings) : Collaborators :=
  { Collaborators.new shippingPrice (some settings.retention) with
    carts := fillCart .empty customer
    catalog := catalog
    remoteMail := settings.notificationUrl.map RemoteMail.ofAddress }

/-- The faults that settings ask for. -/
def faults (settings : Settings) : Faults :=
  ⟨settings.paymentUnreachable, settings.extraEvents⟩

/-- The shop for some settings, drawing its numbers from given points on. -/
def start (settings : Settings) (spanSeed orderSeed : Nat) : Shop :=
  .new settings.followUp (faults settings) true (collaborators settings) .disabled
    (.new settings.sampleRatio spanSeed) orderSeed

end Storefront.Shop.Demo
