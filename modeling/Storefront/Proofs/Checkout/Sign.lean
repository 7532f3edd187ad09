import Mathlib.Algebra.Order.BigOperators.Group.List
import Storefront.Proofs.Checkout.Total
import Storefront.Proofs.Shop.Outcome
import Storefront.Shop.Demo

/-!
# The sign of what is charged

A quote is accepted only if it is not negative, but the price of a product and the answer to a
conversion are accepted whatever their sign, and the total is charged whatever its sign. So a
checkout charges the exact sum of its parts or nothing, and where it charges less than nothing a
price that was told in the currency of the charge, or an amount that came of a conversion, is to
blame: `Checkout.charges_as_told`. A catalog with such a price makes a shop charge a negative
amount, `Shop.coupon_is_charged`.
-/

namespace Storefront

/-- An amount that is accepted as a quote is not negative. -/
theorem Request.Answers.isNegative_eq {address : Address} {lines : List CartLine} {cost : Money}
    (h : (Request.getQuote address lines).Answers (.ok cost)) : cost.isNegative = false := by
  obtain ⟨reply, hcheck⟩ := h.exists_check
  change Request.checkQuote reply = .ok cost at hcheck
  unfold Request.checkQuote at hcheck
  split at hcheck
  · cases hcheck
  · split at hcheck
    · cases hcheck
    · rename_i hsign
      cases hcheck
      exact Bool.eq_false_iff.mpr hsign

/-- Whatever is answered in a play is an answer that a caller can get. -/
theorem Dialogue.Plays.answers {α : Type} {d : Dialogue α} {events : List Event} {value : α}
    (h : d.Plays events value) : ∀ call ∈ callsOf events, call.request.Answers call.answer := by
  induction h with
  | done value => nofun
  | asked hanswer _ ih =>
      rintro call (_ | ⟨_, hcall⟩)
      · exact hanswer
      · exact ih call hcall
  | consulted _ ih => exact ih
  | noted _ ih => exact ih

/-- Where a sum of numbers is negative, one of them is. -/
theorem exists_neg_of_sum_neg {numbers : List Int} (h : numbers.sum < 0) :
    ∃ n ∈ numbers, n < 0 := by
  by_contra hnone
  refine absurd (List.sum_nonneg fun n hn ↦ ?_) (Int.not_le.mpr h)
  exact Int.not_lt.mp fun hneg ↦ hnone ⟨n, hn, hneg⟩

/-- A line is negative only if its price is. -/
theorem PricedLine.isNegative_of_nanos {p : PricedLine} (h : p.nanos < 0) :
    p.cost.isNegative = true := by
  rw [Money.isNegative_iff]
  by_contra hcost
  exact absurd (Int.mul_nonneg (Int.not_lt.mp hcost) (Int.natCast_nonneg _)) (Int.not_le.mpr h)

/-- `call.TellsNegative currency` says that the call was answered with a negative amount of the
currency: the price of a product that is in it, or what an amount comes to in it. -/
inductive Call.TellsNegative (currency : CurrencyCode) : Call → Prop where
  | price (product : ProductId) {price : Money} (hcurrency : price.currency = currency)
      (hnegative : price.isNegative = true) :
      TellsNegative currency ⟨.getProduct product, .ok price⟩
  | conversion (source : Money) {amount : Money} (hnegative : amount.isNegative = true) :
      TellsNegative currency ⟨.convert source currency, .ok amount⟩

namespace Checkout

/-- What holds of the sign of what a checkout charges, given all that happened and the result. -/
structure IsSigned (request : OrderRequest) (events : List Event)
    (result : Except PlacementError Order) : Prop where
  /-- A quote that is accepted is not negative. -/
  quotes : ∀ address lines cost,
    (⟨.getQuote address lines, .ok cost⟩ : Call) ∈ callsOf events → cost.isNegative = false
  /-- A checkout fails at a step before the charge and charges nothing, or it charges the sum of
  its parts, whatever the sign: the charge is negative exactly if the sum is. -/
  charges :
    ((callsOf events).filterMap (fun call ↦ call.request.charged?) = [] ∧
      ∃ error, result = .error error ∧ error.step ∈
        [.validate, .getCart, .getProduct, .quoteShipping, .convertCurrency, .prepareTotal]) ∨
    ∃ (valid : ValidRequest) (plan : Plan valid) (amount : Money),
      request.validate = .ok valid ∧ plan.pricing <+: callsOf events ∧
      (callsOf events).filterMap (fun call ↦ call.request.charged?) = [amount] ∧
      amount.currency = valid.currency ∧
      amount.total = (plan.pricedLines.map PricedLine.nanos).sum + plan.shipping.amount.total ∧
      (amount.isNegative = true ↔
        (plan.pricedLines.map PricedLine.nanos).sum + plan.shipping.amount.total < 0)
  /-- A charge is negative only if a call before it told a negative amount of its currency, and so
  it never is where the catalog and the exchange tell none. -/
  cause : ∀ amount ∈ (callsOf events).filterMap (fun call ↦ call.request.charged?),
    amount.isNegative = true → ∃ call ∈ callsOf events, call.TellsNegative amount.currency

end Checkout

/-- Where an amount comes to less than nothing, it was less than nothing and in the currency, or its
conversion is among the calls. -/
theorem Conversion.negative_cases {target : CurrencyCode} {c : Conversion target}
    (h : c.amount.isNegative = true) :
    (c.source.currency = target ∧ c.source.isNegative = true) ∨
      ∃ call ∈ c.calls, call.TellsNegative target := by
  by_cases hsame : c.source.currency = target
  · exact .inl ⟨hsame, c.eq_source hsame ▸ h⟩
  · rw [calls, if_neg hsame]
    exact .inr ⟨_, List.mem_cons_self, .conversion c.source h⟩

namespace Plan

variable {request : ValidRequest} {plan : Plan request}

/-- The price of a line is told among the calls up to the charge. -/
theorem lookup_mem_pricing {p : PlannedLine request.currency} (h : p ∈ plan.lines) :
    p.listed.lookup ∈ plan.pricing := by
  have hlookup : p.listed.lookup ∈ plan.lookups := List.mem_map_of_mem (List.mem_map_of_mem h)
  exact List.mem_cons_of_mem _ (List.mem_append_left _ hlookup)

/-- The price of shipping is told among the calls up to the charge. -/
theorem quoting_mem_pricing : plan.quoting ∈ plan.pricing :=
  List.mem_cons_of_mem _ (List.mem_append_right _ List.mem_cons_self)

/-- The conversions are among the calls up to the charge. -/
theorem mem_pricing_of_mem_conversions {call : Call} (h : call ∈ plan.conversions) :
    call ∈ plan.pricing :=
  List.mem_cons_of_mem _ (List.mem_append_right _ (List.mem_cons_of_mem _ h))

/-- A line that costs less than nothing has its price or its conversion to blame. -/
theorem cause_of_line {p : PlannedLine request.currency} (hp : p ∈ plan.lines)
    (h : p.cost.amount.isNegative = true) :
    ∃ call ∈ plan.pricing, call.TellsNegative request.currency := by
  rcases Conversion.negative_cases h with ⟨hsame, hsource⟩ | ⟨call, hcall, htells⟩
  · exact ⟨_, lookup_mem_pricing hp, .price p.line.product hsame hsource⟩
  · have hmem : call ∈ plan.conversions :=
      List.mem_append_left _ (List.mem_flatMap.mpr ⟨p, hp, hcall⟩)
    exact ⟨call, mem_pricing_of_mem_conversions hmem, htells⟩

/-- Shipping that costs less than nothing has its conversion to blame if the quote has not. -/
theorem cause_of_shipping (hquote : plan.shipping.source.isNegative = false)
    (h : plan.shipping.amount.isNegative = true) :
    ∃ call ∈ plan.pricing, call.TellsNegative request.currency := by
  rcases Conversion.negative_cases h with ⟨-, hsource⟩ | ⟨call, hcall, htells⟩
  · rw [hquote] at hsource
    cases hsource
  · exact ⟨call, mem_pricing_of_mem_conversions (List.mem_append_right _ hcall), htells⟩

/-- A sum of parts that is less than nothing has a call to blame if the quote is not negative. -/
theorem cause_of_sum (hquote : plan.shipping.source.isNegative = false)
    (h : (plan.pricedLines.map PricedLine.nanos).sum + plan.shipping.amount.total < 0) :
    ∃ call ∈ plan.pricing, call.TellsNegative request.currency := by
  by_cases hshipping : plan.shipping.amount.total < 0
  · exact cause_of_shipping hquote ((Money.isNegative_iff _).mpr hshipping)
  · obtain ⟨n, hn, hneg⟩ := exists_neg_of_sum_neg
      (show (plan.pricedLines.map PricedLine.nanos).sum < 0 by omega)
    obtain ⟨priced, hpriced, rfl⟩ := List.mem_map.mp hn
    obtain ⟨p, hp, rfl⟩ := List.mem_map.mp hpriced
    have hcost : p.priced.cost.isNegative = true := PricedLine.isNegative_of_nanos hneg
    exact cause_of_line hp hcost

end Plan

namespace Checkout

/-- Either nothing is charged, because a step before the charge fails, or the total of the plan is
charged once, after all its calls. -/
theorem Conforms.charged_cases {id : OrderId} {request : OrderRequest} {events : List Event}
    {result : Except PlacementError Order} (h : Conforms id request events result) :
    ((callsOf events).filterMap (fun call ↦ call.request.charged?) = [] ∧
      ∃ error, result = .error error ∧ error.step ∈
        [.validate, .getCart, .getProduct, .quoteShipping, .convertCurrency, .prepareTotal]) ∨
    ∃ (valid : ValidRequest) (plan : Plan valid) (total : Money),
      request.validate = .ok valid ∧ plan.total? = .ok total ∧ plan.pricing <+: callsOf events ∧
      (callsOf events).filterMap (fun call ↦ call.request.charged?) = [total] := by
  cases h with
  | refused hvalid => exact .inl ⟨rfl, _, rfl, by simp [PlacementError.step]⟩
  | stopped plan hvalid hstops =>
      refine .inl ⟨?_, _, rfl, ?_⟩
      · exact List.filterMap_eq_nil_iff.mpr fun call hcall ↦
          Request.charged?_of_isInquiry (isInquiry_of_stopsAt hstops call hcall)
      · obtain ⟨before, call, failure, hstart, -, hblame⟩ := calls_of_stopsAt hstops
        have hmem : call ∈ plan.pricing := hstart.subset (by simp)
        have hstep := Request.step_of_isInquiry (Plan.isInquiry_of_mem_pricing hmem)
        rw [(Request.explains_of_blame? hblame).1]
        simp only [List.mem_cons] at hstep ⊢
        tauto
  | unpayable plan hvalid htotal =>
      refine .inl ⟨?_, _, rfl, by simp [PlacementError.step]⟩
      rw [callsOf_opening, plan.filterMap_charged?_pricing]
  | uncharged plan diverted failure hvalid htotal hblame =>
      refine .inr ⟨_, plan, _, hvalid, htotal, ?_, ?_⟩ <;> rw [callsOf_toCharge]
      · exact List.prefix_append _ _
      · rw [List.filterMap_append, plan.filterMap_charged?_pricing]
        rfl
  | unshipped plan diverted transaction failure hvalid htotal hblame =>
      refine .inr ⟨_, plan, _, hvalid, htotal, ?_, ?_⟩ <;>
        rw [callsOf_append, callsOf_toShipment, List.append_assoc]
      · exact List.prefix_append _ _
      · rw [List.filterMap_append, plan.filterMap_charged?_pricing]
        rfl
  | placed plan diverted transaction tracking answer hvalid htotal =>
      refine .inr ⟨_, plan, _, hvalid, htotal, ?_, ?_⟩ <;> rw [callsOf_toEnd]
      · exact List.prefix_append _ _
      · rw [List.filterMap_append, plan.filterMap_charged?_pricing]
        rfl

/-- Every way in which a checkout can go, its quotes not being negative, explains the sign of what
it charges. -/
theorem Conforms.isSigned {id : OrderId} {request : OrderRequest} {events : List Event}
    {result : Except PlacementError Order} (h : Conforms id request events result)
    (hquotes : ∀ address lines cost,
      (⟨.getQuote address lines, .ok cost⟩ : Call) ∈ callsOf events → cost.isNegative = false) :
    IsSigned request events result := by
  rcases h.charged_cases with
    ⟨hcharged, hfails⟩ | ⟨valid, plan, total, hvalid, htotal, hcalls, hcharged⟩
  · refine ⟨hquotes, .inl ⟨hcharged, hfails⟩, ?_⟩
    rw [hcharged]
    nofun
  · obtain ⟨hcurrency, hexact, -⟩ := plan.total_spec htotal
    have hsign := total.isNegative_iff
    rw [hexact] at hsign
    refine ⟨hquotes,
      .inr ⟨valid, plan, total, hvalid, hcalls, hcharged, hcurrency, hexact, hsign⟩, ?_⟩
    rw [hcharged]
    rintro amount hamount hneg
    obtain rfl := List.mem_singleton.mp hamount
    have hquote := hquotes _ _ _ (hcalls.subset Plan.quoting_mem_pricing)
    obtain ⟨call, hcall, htells⟩ := Plan.cause_of_sum hquote (hsign.mp hneg)
    exact ⟨call, hcalls.subset hcall, hcurrency ▸ htells⟩

/-- However the collaborators answer, a checkout charges nothing or the sum of its parts, and if
that is negative, a price in the currency of the charge or a conversion is. -/
theorem charges_as_told {id : OrderId} {request : OrderRequest} {events : List Event}
    {result : Except PlacementError Order} (h : (placeOrder id request).Plays events result) :
    IsSigned request events result := by
  refine (conforms h).isSigned fun address lines cost hcall ↦ ?_
  exact Request.Answers.isNegative_eq (h.answers _ hcall)

end Checkout

namespace Shop

/-- The demonstration shop with a product at a negative price in its catalog. -/
def couponShop : Shop :=
  let shop := Demo.start .standard 0 0
  { shop with
    collaborators :=
      { shop.collaborators with
        catalog := shop.collaborators.catalog.add
          ⟨⟨"66VCHSJNUP"⟩, "Coupon", some ⟨CurrencyCode.usd, -19, 0, by decide⟩⟩ } }

/-- A shop with a coupon in its catalog places an order whose total is negative. -/
theorem exists_place_coupon : ∃ order final events,
    couponShop.place .background none demoRequest = (some (.ok order), final) ∧
      couponShop.Places .background none demoRequest events (.ok order) final ∧
      order.totalCost.isNegative = true := by
  have hplaced : (couponShop.place .background none demoRequest).1.any
      (fun result ↦ result.toOption.any fun order ↦ order.totalCost.isNegative) = true := rfl
  obtain ⟨result, final, hplace⟩ := couponShop.exists_place .background demoRequest
  rw [hplace] at hplaced
  cases result with
  | error => cases hplaced
  | ok order =>
      obtain ⟨events, hplaces⟩ := place_eq_some_iff.mp hplace
      exact ⟨order, final, events, hplace, hplaces, hplaced⟩

/-- The total of that order is charged, though it is negative. -/
theorem coupon_is_charged : ∃ order final events,
    couponShop.place .background none demoRequest = (some (.ok order), final) ∧
      couponShop.Places .background none demoRequest events (.ok order) final ∧
      (callsOf events).filterMap (fun call ↦ call.request.charged?) = [order.totalCost] ∧
      order.totalCost.isNegative = true := by
  obtain ⟨order, final, events, hplace, hplaces, hneg⟩ := exists_place_coupon
  obtain ⟨-, -, -, -, -, -, -, -, -, hcharged⟩ :=
    (Checkout.conforms hplaces.1).isBilled.placed order rfl
  exact ⟨order, final, events, hplace, hplaces, hcharged, hneg⟩

/-- The sign of that charge is explained. -/
theorem coupon_charges_as_told : ∃ order final events,
    couponShop.Places .background none demoRequest events (.ok order) final ∧
      Checkout.IsSigned demoRequest events (.ok order) := by
  obtain ⟨order, final, events, -, hplaces, -⟩ := exists_place_coupon
  exact ⟨order, final, events, hplaces, Checkout.charges_as_told hplaces.1⟩

end Shop

end Storefront
