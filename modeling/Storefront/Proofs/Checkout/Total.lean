import Mathlib.Algebra.Ring.Int.Defs
import Storefront.Proofs.Checkout.Failure
import Storefront.Proofs.Money.Sum
import Storefront.Proofs.Shop.Outcome

/-!
# What an order costs

The total of an order is the exact sum of its lines and shipping, or there is none because a line
or a sum on the way is out of range. `orderTotal_cases` says so of the arithmetic, given that
everything is in one currency; that it is follows from the plan of the checkout. A checkout reaches
the total when all that a plan asks up to there is answered, `Plan.ReachesTotal`, and the amounts of
that plan decide whether there is one. The main theorem, `total_is_exact`, puts this together for
every checkout.
-/

namespace Storefront

open Money (InRange)

/-- What a line costs, in nanos. -/
def PricedLine.nanos (p : PricedLine) : Int :=
  p.cost.total * p.line.quantity.toNat

/-- What an order is made up of, in nanos: its lines in order, and shipping last. -/
def nanoParts (lines : List PricedLine) (shipping : Money) : List Int :=
  lines.map PricedLine.nanos ++ [shipping.total]

/-- A line is out of range, or the sum of the first parts up to one of them is. -/
def Overflows (lines : List PricedLine) (shipping : Money) : Prop :=
  (∃ p ∈ lines, ¬InRange p.nanos) ∨
    ∃ first, first <+: nanoParts lines shipping ∧ ¬InRange first.sum

/-- Lines are multiplied exactly, unless one of them is out of range. -/
theorem mapM_total {currency : CurrencyCode} {lines : List PricedLine}
    (hcurrency : ∀ p ∈ lines, p.cost.currency = currency) :
    (∃ totals, lines.mapM PricedLine.total = .ok totals ∧
      (∀ t ∈ totals, t.currency = currency) ∧
      totals.map Money.total = lines.map PricedLine.nanos ∧ ∀ p ∈ lines, InRange p.nanos) ∨
    (lines.mapM PricedLine.total = .error .overflow ∧ ∃ p ∈ lines, ¬InRange p.nanos) := by
  induction lines with
  | nil => exact .inl ⟨[], rfl, nofun, rfl, nofun⟩
  | cons p rest ih =>
      have hp : p.total = Money.ofTotal p.cost.currency p.nanos :=
        p.cost.multiply_eq_ofTotal p.line.quantity
      rw [List.mapM_cons]
      cases htotal : p.total with
      -- The first line decides before the others are looked at, and the rest is by induction.
      | error e =>
          obtain ⟨rfl, hrange⟩ := Money.ofTotal_eq_error_iff.mp (hp.symm.trans htotal)
          exact .inr ⟨rfl, p, List.mem_cons_self, hrange⟩
      | ok total =>
          obtain ⟨hcode, hnanos⟩ := Money.total_of_ofTotal (hp.symm.trans htotal)
          rcases ih fun q hq ↦ hcurrency q (List.mem_cons_of_mem p hq) with
            ⟨totals, hmap, hcodes, htotals, hranges⟩ | ⟨hmap, q, hq, hrange⟩
          · refine .inl ⟨total :: totals, by rw [hmap]; rfl, ?_, ?_, ?_⟩
            · rintro t (_ | ⟨_, ht⟩)
              · rw [hcode, hcurrency p List.mem_cons_self]
              · exact hcodes t ht
            · rw [List.map_cons, List.map_cons, hnanos, htotals]
            · rintro q (_ | ⟨_, hq⟩)
              · exact hnanos ▸ total.inRange_total
              · exact hranges q hq
          · exact .inr ⟨by rw [hmap]; rfl, q, List.mem_cons_of_mem p hq, hrange⟩

/-- Adding shipping is one more step of the sum of the lines. -/
theorem orderTotal_eq (currency : CurrencyCode) (lines : List PricedLine) (shipping : Money) :
    orderTotal currency lines shipping = (do
      let totals ← lines.mapM PricedLine.total
      (totals ++ [shipping]).foldlM Money.add (.zero currency)) := by
  simp [orderTotal, Money.sum]

/-- An order in one currency has the exact sum of its parts as its total, unless it overflows. -/
theorem orderTotal_cases {currency : CurrencyCode} {lines : List PricedLine} {shipping : Money}
    (hlines : ∀ p ∈ lines, p.cost.currency = currency) (hshipping : shipping.currency = currency) :
    (∃ total, orderTotal currency lines shipping = .ok total ∧ total.currency = currency ∧
      total.total = (lines.map PricedLine.nanos).sum + shipping.total ∧
      ¬Overflows lines shipping) ∨
    (orderTotal currency lines shipping = .error .overflow ∧ Overflows lines shipping) := by
  rw [orderTotal_eq]
  unfold Overflows nanoParts
  rcases mapM_total hlines with ⟨totals, hmap, hcodes, htotals, hranges⟩ | ⟨hmap, hrange⟩
  · have hall : ∀ a ∈ totals ++ [shipping], a.currency = (Money.zero currency).currency := by
      intro a ha
      rcases List.mem_append.mp ha with ha | ha
      · exact hcodes a ha
      · rw [List.mem_singleton.mp ha]
        exact hshipping
    have hsum := Money.foldlM_add hall
    rw [List.map_append, htotals, Money.total_zero, List.map_singleton] at hsum
    simp only [Int.zero_add] at hsum
    rw [hmap]
    rcases hsum with ⟨t, ht, hcode, htotal, hsums⟩ | ⟨herror, first, hfirst, hrange⟩
    · refine .inl ⟨t, ht, hcode, by simpa using htotal, ?_⟩
      rintro (⟨p, hp, hrange⟩ | ⟨first, hfirst, hrange⟩)
      · exact hrange (hranges p hp)
      · exact hrange (hsums first hfirst)
    · exact .inr ⟨herror, .inr ⟨first, hfirst, hrange⟩⟩
  · exact .inr ⟨by rw [hmap]; rfl, .inl hrange⟩

namespace Plan

variable {request : ValidRequest}

/-- All lines of a plan are in the currency of the request. -/
theorem currency_of_mem_pricedLines {plan : Plan request} {p : PricedLine}
    (h : p ∈ plan.pricedLines) : p.cost.currency = request.currency := by
  obtain ⟨planned, -, rfl⟩ := List.mem_map.mp h
  exact planned.cost.currency_eq

/-- The lines that are priced are those of the cart. -/
theorem map_line_pricedLines (plan : Plan request) :
    plan.pricedLines.map PricedLine.line = plan.cart.lines := by
  rw [← plan.lines_eq, pricedLines, List.map_map]
  rfl

/-- A checkout of the request has got as far as the total: it has made all calls of the plan up to
there, and they have the answers of the plan. -/
def ReachesTotal (plan : Plan request) (asked : OrderRequest) (events : List Event) : Prop :=
  asked.validate = .ok request ∧ plan.pricing <+: callsOf events

/-- A total that is formed is exact, and nothing overflows. -/
theorem total_spec {plan : Plan request} {total : Money} (h : plan.total? = .ok total) :
    total.currency = request.currency ∧
      total.total = (plan.pricedLines.map PricedLine.nanos).sum + plan.shipping.amount.total ∧
      ¬Overflows plan.pricedLines plan.shipping.amount := by
  rcases orderTotal_cases (fun _ ↦ plan.currency_of_mem_pricedLines) plan.shipping.currency_eq with
    ⟨other, hother, hspec⟩ | ⟨herror, -⟩
  · cases h.symm.trans hother
    exact hspec
  · cases h.symm.trans herror

/-- A total that is not formed overflows. -/
theorem overflows_of_error {plan : Plan request} {error : MoneyError}
    (h : plan.total? = .error error) :
    error = .overflow ∧ Overflows plan.pricedLines plan.shipping.amount := by
  rcases orderTotal_cases (fun _ ↦ plan.currency_of_mem_pricedLines) plan.shipping.currency_eq with
    ⟨other, hother, -⟩ | ⟨herror, hoverflows⟩
  · cases h.symm.trans hother
  · cases h.symm.trans herror
    exact ⟨rfl, hoverflows⟩

end Plan

namespace Checkout

/-- What holds of the money of a checkout, given all that happened and the result. -/
structure IsBilled (request : OrderRequest) (events : List Event)
    (result : Except PlacementError Order) : Prop where
  /-- An order has the lines of the cart that was fetched, everything in the currency of the
  request, and the exact total, and nothing but the total was charged. -/
  placed : ∀ order, result = .ok order → ∃ (valid : ValidRequest) (cart : Cart),
    request.validate = .ok valid ∧
    (callsOf events).head? = some ⟨.getCart valid.user, .ok cart⟩ ∧
    order.lines.map PricedLine.line = cart.lines ∧
    (∀ p ∈ order.lines, p.cost.currency = valid.currency) ∧
    order.shippingCost.currency = valid.currency ∧ order.totalCost.currency = valid.currency ∧
    order.totalCost.total =
      (order.lines.map PricedLine.nanos).sum + order.shippingCost.total ∧
    (callsOf events).filterMap (fun call ↦ call.request.charged?) = [order.totalCost]
  /-- A checkout reaches the total, or it fails at a step before. -/
  reaches : (∃ (valid : ValidRequest) (plan : Plan valid), plan.ReachesTotal request events) ∨
    ∃ error, result = .error error ∧ error.step ∈
      [.validate, .getCart, .getProduct, .quoteShipping, .convertCurrency]
  /-- A checkout fails where it is refused, where all is answered but there is no total, or where
  its last call is not answered. -/
  stops : ∀ error, result = .error error → FailsAt request events error.step
  /-- A checkout that reaches the total fails there exactly if a line or a running sum is out of
  range. -/
  failed : ∀ (valid : ValidRequest) (plan : Plan valid), plan.ReachesTotal request events →
    ((∃ error, result = .error error ∧ error.step = .prepareTotal) ↔
      Overflows plan.pricedLines plan.shipping.amount)
  /-- No checkout fails at the total for another reason. -/
  cause : ∀ error, result = .error error → error.step = .prepareTotal →
    error = .invalidAmount .prepareTotal .overflow
  /-- No amount fails to be formed for another reason, or anywhere else. -/
  overflow : ∀ step error, result = .error (.invalidAmount step error) →
    step = .prepareTotal ∧ error = .overflow

section

variable {id : OrderId} {request : OrderRequest} {valid : ValidRequest} {plan : Plan valid}
  {events : List Event} {result : Except PlacementError Order} {error : PlacementError}

/-- What holds of one plan with which a checkout reaches the total holds of every one. -/
theorem forall_reachesTotal {P : (valid : ValidRequest) → Plan valid → Prop}
    (hreaches : plan.ReachesTotal request events) (h : P valid plan) :
    ∀ (other : ValidRequest) (plan : Plan other), plan.ReachesTotal request events →
      P other plan := by
  rintro other plan ⟨hvalid, hcalls⟩
  cases hreaches.1.symm.trans hvalid
  exact Plan.eq_of_pricing_prefix hreaches.2 hcalls ▸ h

/-- A checkout that stops at a call before the total does not reach it with any plan. -/
theorem not_reachesTotal_of_stopsAt (hvalid : request.validate = .ok valid)
    (hstops : StopsAt (plan.opening id) events error) :
    ∀ (other : ValidRequest) (plan : Plan other), ¬plan.ReachesTotal request events := by
  rintro _ other ⟨hother, hcalls⟩
  cases hvalid.symm.trans hother
  obtain ⟨before, call, failure, hstart, hlast, -⟩ := calls_of_stopsAt hstops
  rw [hlast] at hcalls
  -- The call that fails is none of the other plan, so the other plan is done before it.
  have hbefore : other.pricing <+: before := by
    rcases List.prefix_concat_iff.mp hcalls with heq | hbefore
    · have hmem : ⟨call.request, .error failure⟩ ∈ other.pricing := by simp [heq]
      cases (Plan.of_mem_pricing hmem).2
    · exact hbefore
  -- But then it is the same plan, which has one call more.
  have hstarted : before <+: plan.pricing := (List.prefix_append _ _).trans hstart
  obtain rfl := Plan.eq_of_pricing_prefix (hbefore.trans hstarted) List.prefix_rfl
  have hlength := (hstart.trans hbefore).length_le
  rw [List.length_append, List.length_singleton] at hlength
  omega

/-- A checkout that fails by a call after the total is billed as it should be. -/
theorem isBilled_of_blame {total : Money} {call : Request} {failure : CallFailure}
    (hreaches : plan.ReachesTotal request events) (htotal : plan.total? = .ok total)
    (hblame : call.blame? failure = some error) (hfails : FailsAt request events error.step) :
    IsBilled request events (.error error) := by
  obtain ⟨-, -, hfits⟩ := plan.total_spec htotal
  have hstep : error.step ≠ .prepareTotal := by
    rw [(Request.explains_of_blame? hblame).1]
    exact call.step_ne_prepareTotal
  refine ⟨nofun, .inl ⟨valid, plan, hreaches⟩, ?_, forall_reachesTotal hreaches ⟨?_, ?_⟩, ?_, ?_⟩
  · rintro _ ⟨⟩
    exact hfails
  · rintro ⟨_, ⟨⟩, htotal⟩
    exact absurd htotal hstep
  · exact fun hoverflows ↦ absurd hoverflows hfits
  · rintro _ ⟨⟩ htotal
    exact absurd htotal hstep
  · rintro step cause ⟨⟩
    exact absurd hblame Request.blame?_ne_invalidAmount

/-- A checkout that fails before the total is billed as it should be. -/
theorem isBilled_of_early (hearly : error.step ∈
      [.validate, .getCart, .getProduct, .quoteShipping, .convertCurrency])
    (hfails : FailsAt request events error.step)
    (hreaches : ∀ (valid : ValidRequest) (plan : Plan valid), ¬plan.ReachesTotal request events)
    (hamount : ∀ step cause, error ≠ .invalidAmount step cause) :
    IsBilled request events (.error error) := by
  have hstep : error.step ≠ .prepareTotal := by
    intro htotal
    rw [htotal] at hearly
    simp at hearly
  refine ⟨nofun, .inr ⟨error, rfl, hearly⟩, ?_, fun valid plan h ↦ ?_, ?_, ?_⟩
  · rintro _ ⟨⟩
    exact hfails
  · exact absurd h (hreaches valid plan)
  · rintro _ ⟨⟩ htotal
    exact absurd htotal hstep
  · rintro step cause ⟨⟩
    exact absurd rfl (hamount step cause)

/-- Every way in which a checkout can go is billed as it should be. -/
theorem Conforms.isBilled (h : Conforms id request events result) :
    IsBilled request events result := by
  have hfails : ∀ error, result = .error error → FailsAt request events error.step := by
    rintro error rfl
    exact h.ends.failsAt
  cases h with
  | refused hvalid =>
      refine isBilled_of_early (by simp [PlacementError.step]) (hfails _ rfl) ?_ nofun
      rintro valid plan ⟨hother, -⟩
      cases hvalid.symm.trans hother
  | stopped plan hvalid hstops =>
      obtain ⟨before, call, failure, hstart, -, hblame⟩ := calls_of_stopsAt hstops
      have hstep := (Request.explains_of_blame? hblame).1
      have hmem : call ∈ plan.pricing := hstart.subset (by simp)
      refine isBilled_of_early ?_ (hfails _ rfl) (not_reachesTotal_of_stopsAt hvalid hstops) ?_
      · rw [hstep]
        exact List.mem_cons_of_mem _
          (Request.step_of_isInquiry (Plan.isInquiry_of_mem_pricing hmem))
      · rintro step cause rfl
        exact absurd hblame Request.blame?_ne_invalidAmount
  | unpayable plan hvalid htotal =>
      obtain ⟨rfl, hoverflows⟩ := plan.overflows_of_error htotal
      have hreaches : plan.ReachesTotal request (plan.opening id) := ⟨hvalid, by simp⟩
      refine ⟨nofun, .inl ⟨_, plan, hreaches⟩, hfails, forall_reachesTotal hreaches ⟨?_, ?_⟩, ?_,
        ?_⟩
      · exact fun _ ↦ hoverflows
      · exact fun _ ↦ ⟨_, rfl, rfl⟩
      · rintro _ ⟨⟩ -
        rfl
      · rintro _ _ ⟨⟩
        exact ⟨rfl, rfl⟩
  | uncharged plan diverted failure hvalid htotal hblame =>
      refine isBilled_of_blame ⟨hvalid, ?_⟩ htotal hblame (hfails _ rfl)
      rw [callsOf_toCharge]
      exact List.prefix_append _ _
  | unshipped plan diverted transaction failure hvalid htotal hblame =>
      refine isBilled_of_blame ⟨hvalid, ?_⟩ htotal hblame (hfails _ rfl)
      rw [callsOf_append, callsOf_toShipment, List.append_assoc]
      exact List.prefix_append _ _
  | @placed valid total plan diverted transaction tracking answer hvalid htotal =>
      obtain ⟨hcurrency, hexact, hfits⟩ := plan.total_spec htotal
      have hreaches : plan.ReachesTotal request
          (toEnd plan id total diverted transaction tracking answer) :=
        ⟨hvalid, by rw [callsOf_toEnd]; exact List.prefix_append _ _⟩
      refine ⟨?_, .inl ⟨_, plan, hreaches⟩, hfails, forall_reachesTotal hreaches ⟨nofun, ?_⟩,
        nofun, nofun⟩
      · rintro order ⟨⟩
        refine ⟨_, plan.cart, hvalid, ?_, plan.map_line_pricedLines,
          fun _ ↦ plan.currency_of_mem_pricedLines, plan.shipping.currency_eq, hcurrency, hexact,
          ?_⟩
        · rw [callsOf_toEnd]
          rfl
        · rw [callsOf_toEnd, List.filterMap_append, plan.filterMap_charged?_pricing]
          rfl
      · exact fun hoverflows ↦ absurd hoverflows hfits

end

/-- However the collaborators answer, a checkout is billed as it should be; and so is every order
that a shop places. -/
theorem total_is_exact :
    (∀ (id : OrderId) (request : OrderRequest) (events : List Event)
        (result : Except PlacementError Order),
      (placeOrder id request).Plays events result → IsBilled request events result) ∧
    (∀ (shop final : Shop) (caller : Caller) (abandonAt : Option Nat) (request : OrderRequest)
        (result : Except PlacementError Order),
      shop.place caller abandonAt request = (some result, final) →
        ∃ events, shop.Places caller abandonAt request events result final ∧
          IsBilled request events result) := by
  refine ⟨fun _ _ _ _ h ↦ (conforms h).isBilled, ?_⟩
  intro shop final caller abandonAt request result h
  obtain ⟨events, hplaces⟩ := Shop.place_eq_some_iff.mp h
  exact ⟨events, hplaces, (conforms hplaces.1).isBilled⟩

end Checkout

namespace Shop

/-- The demonstration shop with a product in its catalog of which two pieces are too dear. -/
def dearShop : Shop :=
  let shop := Demo.start .standard 0 0
  { shop with
    collaborators :=
      { shop.collaborators with
        catalog := shop.collaborators.catalog.add
          ⟨⟨"66VCHSJNUP"⟩, "Diamond",
            some ⟨CurrencyCode.usd, 4611686018427387904, 0, by decide⟩⟩ } }

/-- The demonstration shop places the order of its customer for 66.96 dollars, and fails at the
total when one of the products is too dear, which is then out of range. Both are billed as they
should be. -/
theorem demo_orders_are_billed :
    (∃ order final events,
      (Demo.start .standard 0 0).place .background none demoRequest = (some (.ok order), final) ∧
        order.totalCost.total = 66960000000 ∧
        Checkout.IsBilled demoRequest events (.ok order)) ∧
    ∃ (final : Shop) (events : List Event) (valid : ValidRequest) (plan : Plan valid),
      dearShop.place .background none demoRequest =
        (some (.error (.invalidAmount .prepareTotal .overflow)), final) ∧
        Checkout.IsBilled demoRequest events
          (.error (.invalidAmount .prepareTotal .overflow)) ∧
        plan.ReachesTotal demoRequest events ∧
        Overflows plan.pricedLines plan.shipping.amount := by
  constructor
  · have hplaced : ((Demo.start .standard 0 0).place .background none demoRequest).1.any
        (fun result ↦ result.toOption.any fun order ↦
          order.totalCost.total == 66960000000) = true := rfl
    obtain ⟨result, final, hplace⟩ :=
      (Demo.start .standard 0 0).exists_place .background demoRequest
    rw [hplace] at hplaced
    cases result with
    | error => cases hplaced
    | ok order =>
        obtain ⟨events, -, hbilled⟩ := Checkout.total_is_exact.2 _ _ _ _ _ _ hplace
        exact ⟨order, final, events, hplace, eq_of_beq hplaced, hbilled⟩
  · have hfailed : (dearShop.place .background none demoRequest).1 =
        some (.error (.invalidAmount .prepareTotal .overflow)) := rfl
    obtain ⟨result, final, hplace⟩ := dearShop.exists_place .background demoRequest
    rw [hplace] at hfailed
    obtain rfl := Option.some.inj hfailed
    obtain ⟨events, -, hbilled⟩ := Checkout.total_is_exact.2 _ _ _ _ _ _ hplace
    obtain ⟨valid, plan, hreaches⟩ := hbilled.reaches.resolve_right <| by
      rintro ⟨_, ⟨⟩, hearly⟩
      simp [PlacementError.step] at hearly
    have hoverflows := (hbilled.failed valid plan hreaches).mp ⟨_, rfl, rfl⟩
    exact ⟨final, events, valid, plan, hplace, hbilled, hreaches, hoverflows⟩

end Shop

end Storefront
