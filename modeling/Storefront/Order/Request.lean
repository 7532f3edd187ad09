import Storefront.Order.Json

/-!
# Order requests

A request as it comes in, with everything but the user optional, and the check that turns it into
a request that can be carried out. `OrderRequest.validate` reports the first of the conditions that
fails, in the order user, currency, address, card; what it accepts has all of them.
-/

namespace Storefront

/-- A request to place an order. -/
structure OrderRequest where
  user : UserId
  currency : String
  address : Option Address
  email : String
  card : Option Card
  deriving DecidableEq

/-- A request with everything that an order needs. -/
structure ValidRequest where
  user : UserId
  currency : CurrencyCode
  address : Address
  email : String
  card : Card
  deriving DecidableEq

/-- Why a request was refused. -/
inductive RequestDefect where
  | missingUser
  | missingCurrency
  | invalidCurrency (text : String)
  | missingAddress
  | incompleteAddress (field : String)
  | missingCard
  | incompleteCard (field : String)
  deriving DecidableEq

/-- The wording of each defect. -/
def RequestDefect.message : RequestDefect → String
  | .missingUser => "user id is required"
  | .missingCurrency => "currency code is required"
  | .invalidCurrency text => "unsupported currency code " ++ Text.quote text
  | .missingAddress => "shipping address is required"
  | .incompleteAddress field => "shipping address field '" ++ field ++ "' is required"
  | .missingCard => "credit card is required"
  | .incompleteCard field => "credit card field '" ++ field ++ "' is required"

/-- The first part of an address that is blank and must not be. The state may be blank. -/
def Address.blankField? (a : Address) : Option String :=
  if Text.isBlankText a.street then some "street_address"
  else if Text.isBlankText a.city then some "city"
  else if Text.isBlankText a.country then some "country"
  else if Text.isBlankText a.zip then some "zip_code"
  else none

/-- The first part of a card that is unusable: a blank number, no month, or no positive year. -/
def Card.unusableField? (c : Card) : Option String :=
  if Text.isBlankText c.number then some "credit_card_number"
  else if c.expirationMonth.toNat < 1 ∨ 12 < c.expirationMonth.toNat then
    some "credit_card_expiration_month"
  else if c.expirationYear.toInt ≤ 0 then some "credit_card_expiration_year"
  else none

namespace OrderRequest

/-- The currency that the request names, blanks around it aside. -/
def currencyOf (text : String) : Except RequestDefect CurrencyCode :=
  if Text.isBlankText text then .error .missingCurrency
  else
    match CurrencyCode.parse? (Text.trim text) with
    | some code => .ok code
    | none => .error (.invalidCurrency text)

/-- An address that is there and complete. -/
def addressOf : Option Address → Except RequestDefect Address
  | none => .error .missingAddress
  | some a =>
      match a.blankField? with
      | some field => .error (.incompleteAddress field)
      | none => .ok a

/-- A card that is there and usable. -/
def cardOf : Option Card → Except RequestDefect Card
  | none => .error .missingCard
  | some c =>
      match c.unusableField? with
      | some field => .error (.incompleteCard field)
      | none => .ok c

/-- The request with everything checked, or the first defect. -/
def validate (r : OrderRequest) : Except RequestDefect ValidRequest := do
  if r.user.isEmpty then throw .missingUser
  let currency ← currencyOf r.currency
  let address ← addressOf r.address
  let card ← cardOf r.card
  return ⟨r.user, currency, address, Text.trim r.email, card⟩

/-- What is absent is written as `null`. -/
def optionToJson {α : Type} (toJson : α → Json) : Option α → Json
  | none => .null
  | some a => toJson a

/-- All five parts of a request. -/
def toJson (r : OrderRequest) : Json :=
  .obj [("user_id", r.user.toJson), ("user_currency", .str r.currency),
    ("address", optionToJson Address.toJson r.address), ("email", .str r.email),
    ("credit_card", optionToJson Card.toJson r.card)]

/-- The fields of a request; only the user must be there. -/
def fields : Fields [UserId, String, Option Address, String, Option Card] :=
  .cons "user_id" UserId.decoder none <|
  .cons "user_currency" Decoder.string (some "") <|
  .cons "address" (Decoder.optional Address.decoder) (some none) <|
  .cons "email" Decoder.string (some "") <|
  .cons "credit_card" (Decoder.optional Card.decoder) (some none) .nil

/-- A request, valid or not. -/
def decoder : Decoder OrderRequest :=
  fields.decode.map fun (user, currency, address, email, card, _) ↦
    ⟨user, currency, address, email, card⟩

end OrderRequest

end Storefront
