import Storefront.Call.Request
import Storefront.Dict

/-!
# Carts of all users

Each user has one cart. A product is in a cart at most once: adding more of it adds to the quantity
of its line, and a new product becomes the last line.
-/

namespace Storefront

/-- The carts of all users, and how the service behaves. -/
structure Carts where
  contents : Dict (List CartLine)
  failsToRead : Bool
  failsToEmpty : Bool
  delay : Option Nat

namespace Carts

/-- No carts. -/
def empty : Carts :=
  ⟨.empty, false, false, none⟩

/-- What is in the cart of a user. -/
def lines (c : Carts) (user : UserId) : List CartLine :=
  (c.contents.get? user.text).getD []

/-- Add to the line of a product, or add a line. -/
def addLine (line : CartLine) : List CartLine → List CartLine
  | [] => [line]
  | l :: rest =>
      if l.product = line.product then { l with quantity := l.quantity + line.quantity } :: rest
      else l :: addLine line rest

/-- Put something into the cart of a user. -/
def add (c : Carts) (user : UserId) (line : CartLine) : Carts :=
  { c with contents := c.contents.insert user.text (addLine line (c.lines user)) }

/-- Remove the cart of a user. -/
def clear (c : Carts) (user : UserId) : Carts :=
  { c with contents := c.contents.erase user.text }

/-- The failure of the cart service. -/
def unreachable : TransportError :=
  .unavailable "cart store unreachable"

/-- The cart of a user. -/
def read (c : Carts) (user : UserId) : Except TransportError CartReply :=
  if c.failsToRead then .error unreachable else .ok ⟨user, c.lines user⟩

/-- Remove the cart of a user, unless the service fails. -/
def emptyCart (c : Carts) (user : UserId) : Except TransportError Unit × Carts :=
  if c.failsToEmpty then (.error unreachable, c) else (.ok (), c.clear user)

end Carts

end Storefront
