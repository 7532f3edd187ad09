import Storefront.Text.Quoted

/-!
# Currency codes

A currency code is three capital letters A to Z. `CurrencyCode.parse?` reads one in either case and
accepts nothing else, and codes are ordered as their texts are.
-/

namespace Storefront

/-- A text of three capital letters. -/
def IsCurrencyText (s : String) : Prop :=
  s.toList.length = 3 ∧ ∀ c ∈ s.toList, c.isUpper = true

/-- `IsCurrencyText` is decidable by looking at each character. -/
instance (s : String) : Decidable (IsCurrencyText s) :=
  decidable_of_iff ((s.toList.length == 3 && s.toList.all Char.isUpper) = true)
    (by simp [IsCurrencyText])

/-- A currency, named by three capital letters. -/
structure CurrencyCode where
  text : String
  isCode : IsCurrencyText text
  deriving DecidableEq

namespace CurrencyCode

/-- The text with its letters a to z as capitals. -/
def capitals (s : String) : String :=
  String.ofList (s.toList.map Char.toUpper)

/-- Read a code in either case. -/
def parse? (s : String) : Option CurrencyCode :=
  if h : IsCurrencyText (capitals s) then some ⟨capitals s, h⟩ else none

/-- Codes are ordered by their letters. -/
def ble (a b : CurrencyCode) : Bool :=
  !decide (b.text < a.text)

/-- United States dollar, the currency of catalog examples and default quotes. -/
def usd : CurrencyCode :=
  ⟨"USD", by simp [IsCurrencyText]⟩

/-- The code as it is shown in a diagnostic. -/
def debug (c : CurrencyCode) : String :=
  "CurrencyCode(" ++ c.text ++ ")"

end CurrencyCode

end Storefront
