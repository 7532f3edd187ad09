import Storefront.Collaborator.Payments

/-!
# Shipping

What shipping costs, and the shipments that were accepted, each under a name that counts them. An
order with no lines ships for nothing, and every other order for the same price.
-/

namespace Storefront

/-- A shipment: its name, where it goes, and what is in it. -/
structure Shipment where
  name : String
  address : Address
  lines : List CartLine
  deriving DecidableEq

/-- The price, the shipments, the number of the last one, which counts modulo `2 ^ 32`, and how the
service behaves. -/
structure Shipping where
  quote : Money
  shipments : RetainedLog Shipment
  lastNumber : UInt32
  failsToQuote : Bool
  failsToShip : Bool
  delay : Option Nat

namespace Shipping

/-- No shipments, with a price and room for a number of shipments or for all. -/
def new (quote : Money) (capacity : Option Nat) : Shipping :=
  ⟨quote, .empty capacity, 0, false, false, none⟩

/-- The price of shipping lines. -/
def price (s : Shipping) (lines : List CartLine) : Except TransportError (Option Money) :=
  if s.failsToQuote then .error (.unavailable "quote backend unreachable")
  else .ok (some (if lines.isEmpty then Money.zero s.quote.currency else s.quote))

/-- Accept a shipment, unless the service fails. -/
def ship (s : Shipping) (address : Address) (lines : List CartLine) :
    Except TransportError String × Shipping :=
  if s.failsToShip then (.error (.status 503 "Shipping unavailable"), s)
  else
    let number := s.lastNumber + 1
    let name := countedName "TRACK" number.toNat
    (.ok name,
      { s with shipments := s.shipments.push ⟨name, address, lines⟩, lastNumber := number })

/-- There is a shipment of a name. -/
def hasShipment (s : Shipping) (name : String) : Bool :=
  s.shipments.entries.any fun shipment ↦ shipment.name == name

end Shipping

end Storefront
