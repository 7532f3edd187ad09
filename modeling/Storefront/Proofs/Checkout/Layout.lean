import Storefront.Proofs.Checkout.Total

/-!
# The layout of a cart

The total of an order is formed line by line, and its range is looked at on the way. Where no price
is negative that makes no difference: the total is the exact sum of the parts, or there is none
because that sum is out of range, `orderTotal_eq_ofTotal`. So neither the order of the lines nor
the way in which a quantity is spread over them matters, `cost_ignores_layout`. A single negative
price is enough to make the order of a sum matter.
-/

namespace Storefront

/-- The amount is in the currency and not negative. -/
structure Money.IsPrice (m : Money) (currency : CurrencyCode) : Prop where
  currency_eq : m.currency = currency
  isNegative_eq : m.isNegative = false

namespace Money

/-- The total of a price is not below zero. -/
theorem IsPrice.total_nonneg {m : Money} {currency : CurrencyCode} (h : m.IsPrice currency) :
    0 ≤ m.total := by
  have hsign := mt m.isNegative_iff.mpr (Bool.not_eq_true _ ▸ h.isNegative_eq)
  omega

/-- Prices add up to their exact sum, or overflow if that is out of range. -/
theorem sum_prices {currency : CurrencyCode} {prices : List Money}
    (h : ∀ m ∈ prices, m.IsPrice currency) :
    sum currency prices = ofTotal currency (prices.map total).sum := by
  refine sum_eq_ofTotal (fun m hm ↦ (h m hm).currency_eq) (.inl ?_)
  rw [List.forall_mem_map]
  exact fun m hm ↦ (h m hm).total_nonneg

end Money

variable {currency : CurrencyCode} {lines : List PricedLine} {shipping : Money}

/-- No part of an order is below zero where no price is. -/
theorem oneSided_nanoParts (hlines : ∀ p ∈ lines, p.cost.IsPrice currency)
    (hshipping : shipping.IsPrice currency) : Money.OneSided (nanoParts lines shipping) := by
  left
  unfold nanoParts
  rw [List.forall_mem_append, List.forall_mem_map, List.forall_mem_singleton]
  refine ⟨fun p hp ↦ ?_, hshipping.total_nonneg⟩
  exact Int.mul_nonneg (hlines p hp).total_nonneg (Int.natCast_nonneg _)

/-- An order without negative prices costs the exact sum of its parts, or overflows if that is out
of range. -/
theorem orderTotal_eq_ofTotal (hlines : ∀ p ∈ lines, p.cost.IsPrice currency)
    (hshipping : shipping.IsPrice currency) :
    orderTotal currency lines shipping =
      Money.ofTotal currency (nanoParts lines shipping).sum := by
  have hside := oneSided_nanoParts hlines hshipping
  have hsum : (nanoParts lines shipping).sum =
      (lines.map PricedLine.nanos).sum + shipping.total := by
    unfold nanoParts
    rw [List.sum_append, List.sum_singleton]
  rcases orderTotal_cases (fun p hp ↦ (hlines p hp).currency_eq) hshipping.currency_eq with
    ⟨total, hok, hcode, htotal, -⟩ | ⟨herror, hoverflows⟩
  · rw [hok]
    exact (Money.ofTotal_eq_ok_iff.mpr ⟨hcode, htotal.trans hsum.symm⟩).symm
  · rw [herror]
    refine (Money.ofTotal_eq_error_iff.mpr ⟨rfl, fun hwhole ↦ ?_⟩).symm
    -- A line and a sum on the way are sums of some of the parts.
    rcases hoverflows with ⟨p, hp, hrange⟩ | ⟨first, hfirst, hrange⟩
    · have hmem : p.nanos ∈ nanoParts lines shipping :=
        List.mem_append_left _ (List.mem_map_of_mem hp)
      have hpart := hside.inRange (List.singleton_sublist.mpr hmem) hwhole
      rw [List.sum_singleton] at hpart
      exact hrange hpart
    · exact hrange (hside.inRange hfirst.sublist hwhole)

/-- Two quantities of one price cost together what each of them costs. -/
theorem nanos_add {p q : UInt32} (hfits : p.toNat + q.toNat < 2 ^ 32)
    (whole first second : ProductId) (cost : Money) :
    PricedLine.nanos ⟨⟨whole, p + q⟩, cost⟩ =
      PricedLine.nanos ⟨⟨first, p⟩, cost⟩ + PricedLine.nanos ⟨⟨second, q⟩, cost⟩ := by
  unfold PricedLine.nanos
  rw [UInt32.toNat_add, Nat.mod_eq_of_lt hfits, Int.natCast_add, Int.mul_add]

/-- What an order without negative prices costs depends neither on the order of its lines nor on
how a quantity is spread over lines of one price, whether it has a total or overflows. Nor does the
sum of prices depend on their order. -/
theorem cost_ignores_layout (currency : CurrencyCode) :
    (∀ (lines : List PricedLine) (shipping : Money),
      (∀ p ∈ lines, p.cost.IsPrice currency) → shipping.IsPrice currency →
        (∀ others : List PricedLine, others.Perm lines →
          orderTotal currency others shipping = orderTotal currency lines shipping) ∧
        ∀ (before after : List PricedLine) (cost : Money) (p q : UInt32)
            (whole first second : ProductId),
          p.toNat + q.toNat < 2 ^ 32 → lines = before ++ ⟨⟨whole, p + q⟩, cost⟩ :: after →
            orderTotal currency
                (before ++ ⟨⟨first, p⟩, cost⟩ :: ⟨⟨second, q⟩, cost⟩ :: after) shipping =
              orderTotal currency lines shipping) ∧
    ∀ prices others : List Money, (∀ m ∈ prices, m.IsPrice currency) → others.Perm prices →
      Money.sum currency others = Money.sum currency prices := by
  refine ⟨fun lines shipping hlines hshipping ↦ ⟨?_, ?_⟩, ?_⟩
  · intro others hperm
    have hothers : ∀ p ∈ others, p.cost.IsPrice currency := fun p hp ↦
      hlines p (hperm.mem_iff.mp hp)
    have hparts : (nanoParts others shipping).Perm (nanoParts lines shipping) :=
      (hperm.map PricedLine.nanos).append_right _
    rw [orderTotal_eq_ofTotal hothers hshipping, orderTotal_eq_ofTotal hlines hshipping,
      hparts.sum_eq]
  · rintro before after cost p q whole first second hfits rfl
    obtain ⟨hbefore, hrest⟩ := List.forall_mem_append.mp hlines
    obtain ⟨hcost, hafter⟩ := List.forall_mem_cons.mp hrest
    have hspread : ∀ r ∈ before ++ ⟨⟨first, p⟩, cost⟩ :: ⟨⟨second, q⟩, cost⟩ :: after,
        r.cost.IsPrice currency := by
      rw [List.forall_mem_append, List.forall_mem_cons, List.forall_mem_cons]
      exact ⟨hbefore, hcost, hcost, hafter⟩
    rw [orderTotal_eq_ofTotal hspread hshipping, orderTotal_eq_ofTotal hlines hshipping]
    congr 1
    unfold nanoParts
    simp only [List.map_append, List.map_cons, List.sum_append, List.sum_cons,
      nanos_add hfits whole first second cost, Int.add_assoc]
  · intro prices others hprices hperm
    have hothers : ∀ m ∈ others, m.IsPrice currency := fun m hm ↦
      hprices m (hperm.mem_iff.mp hm)
    rw [Money.sum_prices hothers, Money.sum_prices hprices, (hperm.map Money.total).sum_eq]

/-- A quarter of the least number of units that does not fit. -/
def quarterCost : Money :=
  .ofUnits .usd 2305843009213693952

/-- A number of pieces at that price. -/
def quarterLine (product : String) (quantity : UInt32) : PricedLine :=
  ⟨⟨⟨product⟩, quantity⟩, quarterCost⟩

/-- Three pieces and one more overflow although each line fits, in the other order and with one and
two pieces in place of the three just as well. -/
theorem four_quarters_overflow :
    (∀ p ∈ [quarterLine "A" (1 + 2), quarterLine "B" 1], p.cost.IsPrice .usd) ∧
      (Money.zero .usd).IsPrice .usd ∧ (1 : UInt32).toNat + (2 : UInt32).toNat < 2 ^ 32 ∧
      orderTotal .usd [quarterLine "B" 1, quarterLine "A" (1 + 2)] (.zero .usd) =
        orderTotal .usd [quarterLine "A" (1 + 2), quarterLine "B" 1] (.zero .usd) ∧
      orderTotal .usd [quarterLine "A" 1, quarterLine "C" 2, quarterLine "B" 1] (.zero .usd) =
        orderTotal .usd [quarterLine "A" (1 + 2), quarterLine "B" 1] (.zero .usd) ∧
      orderTotal .usd [quarterLine "A" (1 + 2), quarterLine "B" 1] (.zero .usd) =
        .error .overflow ∧
      Money.sum .usd [.zero .usd, quarterCost] = Money.sum .usd [quarterCost, .zero .usd] := by
  have hprice : ∀ p ∈ [quarterLine "A" (1 + 2), quarterLine "B" 1], p.cost.IsPrice .usd := by
    rintro p (_ | ⟨_, _ | ⟨_, ⟨⟩⟩⟩) <;> exact ⟨rfl, by decide⟩
  have hshipping : (Money.zero .usd).IsPrice .usd := ⟨rfl, by decide⟩
  have hfits : (1 : UInt32).toNat + (2 : UInt32).toNat < 2 ^ 32 := by decide
  have hprices : ∀ m ∈ [quarterCost, .zero .usd], m.IsPrice .usd := by
    rintro m (_ | ⟨_, _ | ⟨_, ⟨⟩⟩⟩) <;> exact ⟨rfl, by decide⟩
  obtain ⟨hlayout, hsum⟩ := cost_ignores_layout .usd
  obtain ⟨horder, hspread⟩ := hlayout _ _ hprice hshipping
  exact ⟨hprice, hshipping, hfits, horder _ (.swap _ _ _),
    hspread [] [quarterLine "B" 1] quarterCost 1 2 ⟨"A"⟩ ⟨"A"⟩ ⟨"C"⟩ hfits rfl, by decide,
    hsum _ _ hprices (.swap _ _ _)⟩

/-- An amount below zero makes the order matter: it has to come before the sum overflows. -/
example :
    Money.sum .usd
        [.ofUnits .usd 1, .ofUnits .usd Int64.maxValue, .ofUnits .usd Int64.minValue] =
      .error .overflow ∧
    Money.sum .usd
        [.ofUnits .usd 1, .ofUnits .usd Int64.minValue, .ofUnits .usd Int64.maxValue] =
      .ok (.zero .usd) := by
  decide

end Storefront
