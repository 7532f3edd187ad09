import Storefront.Call.Request
import Storefront.Dict

/-!
# The catalog

Products by name. A product may have been entered without a price, and look-ups of single products
may fail.
-/

namespace Storefront

/-- Products by name, and how the service behaves. -/
structure Catalog where
  products : Dict ProductReply
  failing : Dict Unit
  delay : Option Nat

namespace Catalog

/-- No products. -/
def empty : Catalog :=
  ⟨.empty, .empty, none⟩

/-- Enter a product, in place of one of the same name. -/
def add (c : Catalog) (product : ProductReply) : Catalog :=
  { c with products := c.products.insert product.product.text product }

/-- Make look-ups of a product fail, or succeed again. -/
def setFailing (c : Catalog) (product : ProductId) (fails : Bool) : Catalog :=
  { c with
    failing := if fails then c.failing.insert product.text () else c.failing.erase product.text }

/-- The number of products. -/
def size (c : Catalog) : Nat :=
  c.products.size

/-- Look a product up. -/
def find (c : Catalog) (product : ProductId) : Except TransportError ProductReply :=
  if (c.failing.get? product.text).isSome then .error (.unavailable "catalog backend unreachable")
  else
    match c.products.get? product.text with
    | some reply => .ok reply
    | none => .error (.status 404 ("no product with id " ++ product.text))

end Catalog

end Storefront
