import Storefront.Proofs.Checkout.Plan

/-!
# Every checkout conforms to a plan

Each part of a checkout either says all that a plan has for it or stops at one of its calls. The two
loops are by induction on the lines; the parts are put together in `conforms`, which leaves the ways
listed in `Conforms` and no others.
-/

namespace Storefront

namespace Placement

variable {events : List Event}

/-- A call that an order needs is answered, or the order ends with the error that its failure is
blamed on. -/
theorem plays_call {request : Request} {wrap : TransportError → PlacementError}
    {result : Except PlacementError request.Accepted} (hown : request.ownError? = some wrap)
    (h : Plays (ask request wrap) events result) :
    (∃ accepted, request.Answers (.ok accepted) ∧ events = [.asked ⟨request, .ok accepted⟩] ∧
      result = .ok accepted) ∨
    ∃ failure error, events = [.asked ⟨request, .error failure⟩] ∧
      request.blame? failure = some error ∧ result = .error error := by
  obtain ⟨answer, hanswer, rfl, rfl⟩ := plays_ask h
  cases answer with
  | ok accepted => exact .inl ⟨accepted, hanswer, rfl, rfl⟩
  | error failure => exact .inr ⟨failure, _, rfl, by rw [Request.blame?, hown]; rfl, rfl⟩

end Placement

/-- What is accepted of an answer has passed the check. -/
theorem Request.Answers.exists_check {request : Request} {accepted : request.Accepted}
    (h : request.Answers (.ok accepted)) : ∃ reply, request.check reply = .ok accepted := by
  generalize hanswer : (.ok accepted : Except CallFailure request.Accepted) = answer at h
  cases h with
  | interrupted reason => cases hanswer
  | replied reply =>
      have haccept := eq_ok_of_mapError hanswer.symm
      cases reply with
      | error e => cases haccept
      | ok reply => exact ⟨reply, eq_ok_of_mapError haccept⟩

/-- An amount that is accepted as a conversion is in the currency that was asked for. -/
theorem Request.Answers.currency_eq {source amount : Money} {target : CurrencyCode}
    (h : (Request.convert source target).Answers (.ok amount)) : amount.currency = target := by
  obtain ⟨reply, hcheck⟩ := h.exists_check
  change Request.checkConversion target reply = .ok amount at hcheck
  unfold Request.checkConversion at hcheck
  split at hcheck
  · rename_i hcurrency
    cases hcheck
    exact hcurrency
  · cases hcheck

namespace Checkout

open Placement

variable {events : List Event}

/-- The prices of all lines are told, or one of the look-ups fails. -/
theorem plays_pricedLines {lines : List CartLine} {result : Except PlacementError (List PricedLine)}
    (h : Plays (pricedLines lines) events result) :
    ∃ priced : List PricedLine, priced.map PricedLine.line = lines ∧
      ((events = (priced.map PricedLine.lookup).map .asked ∧ result = .ok priced) ∨
        ∃ error, StopsAt ((priced.map PricedLine.lookup).map .asked) events error ∧
          result = .error error) := by
  induction lines generalizing events result with
  | nil =>
      obtain ⟨rfl, rfl⟩ := plays_pure h
      exact ⟨[], rfl, .inl ⟨rfl, rfl⟩⟩
  | cons line rest ih =>
      -- Lines that come after a failure have no price yet, and any will do.
      have unpriced : ∀ lines : List CartLine, ∃ priced : List PricedLine,
          priced.map PricedLine.line = lines := fun lines ↦
        ⟨lines.map fun line ↦ ⟨line, .zero .usd⟩, by simp [Function.comp_def]⟩
      rcases plays_bind h with ⟨error, hprice, rfl⟩ | ⟨cost, first, later, rfl, hprice, hlater⟩
      · rcases plays_call rfl hprice with ⟨_, _, _, ⟨⟩⟩ | ⟨failure, _, rfl, hblame, ⟨⟩⟩
        obtain ⟨priced, hpriced⟩ := unpriced rest
        refine ⟨⟨line, .zero .usd⟩ :: priced, by simp [hpriced], .inr ⟨error, ?_, rfl⟩⟩
        exact StopsAt.head (PricedLine.lookup ⟨line, .zero .usd⟩) hblame
      · rcases plays_call rfl hprice with ⟨_, -, rfl, ⟨⟩⟩ | ⟨_, _, _, _, ⟨⟩⟩
        rcases plays_bind hlater with
          ⟨error, hrest, rfl⟩ | ⟨value, second, final, rfl, hrest, hpure⟩
        · obtain ⟨priced, hlines, ⟨_, ⟨⟩⟩ | ⟨_, hstops, ⟨⟩⟩⟩ := ih hrest
          exact ⟨⟨line, cost⟩ :: priced, by simp [hlines],
            .inr ⟨error, hstops.prepend [.asked (PricedLine.lookup ⟨line, cost⟩)], rfl⟩⟩
        · obtain ⟨priced, hlines, ⟨rfl, ⟨⟩⟩ | ⟨_, _, ⟨⟩⟩⟩ := ih hrest
          obtain ⟨rfl, rfl⟩ := plays_pure hpure
          exact ⟨⟨line, cost⟩ :: value, by simp [hlines],
            .inl ⟨by simp [PricedLine.lookup], rfl⟩⟩

/-- An amount is brought into a currency, or the call for that fails. -/
theorem plays_inCurrency {target : CurrencyCode} {amount : Money}
    {result : Except PlacementError Money} (h : Plays (inCurrency target amount) events result) :
    ∃ c : Conversion target, c.source = amount ∧
      ((events = c.calls.map .asked ∧ result = .ok c.amount) ∨
        ∃ error, StopsAt (c.calls.map .asked) events error ∧ result = .error error) := by
  unfold inCurrency at h
  split at h
  · rename_i hsame
    obtain ⟨rfl, rfl⟩ := plays_pure h
    refine ⟨⟨amount, amount, hsame, fun _ ↦ rfl⟩, rfl, .inl ⟨?_, rfl⟩⟩
    simp [Conversion.calls, hsame]
  · rename_i hother
    rcases plays_call rfl h with ⟨accepted, hanswer, rfl, rfl⟩ | ⟨failure, error, rfl, hblame, rfl⟩
    · refine ⟨⟨amount, accepted, hanswer.currency_eq, fun hsame ↦ absurd hsame hother⟩, rfl,
        .inl ⟨?_, rfl⟩⟩
      simp [Conversion.calls, hother]
    · refine ⟨⟨amount, .zero target, rfl, fun hsame ↦ absurd hsame hother⟩, rfl,
        .inr ⟨error, ?_, rfl⟩⟩
      rw [Conversion.calls, if_neg hother]
      exact StopsAt.head (⟨.convert amount target, .ok (.zero target)⟩) hblame

/-- Whatever the catalog tells, there are conversions that begin with it. -/
theorem exists_planned (target : CurrencyCode) (listed : List PricedLine) :
    ∃ planned : List (PlannedLine target), planned.map PlannedLine.listed = listed :=
  ⟨listed.map fun p ↦ ⟨p.line, .ofSource p.cost⟩, by
    simp [Function.comp_def, PlannedLine.listed]⟩

/-- The prices of all lines are brought into a currency, or one of the calls for that fails. -/
theorem plays_linesInCurrency {target : CurrencyCode} {listed : List PricedLine}
    {result : Except PlacementError (List PricedLine)}
    (h : Plays (linesInCurrency target listed) events result) :
    ∃ planned : List (PlannedLine target), planned.map PlannedLine.listed = listed ∧
      ((events = (planned.flatMap fun p ↦ p.cost.calls).map .asked ∧
          result = .ok (planned.map PlannedLine.priced)) ∨
        ∃ error, StopsAt ((planned.flatMap fun p ↦ p.cost.calls).map .asked) events error ∧
          result = .error error) := by
  induction listed generalizing events result with
  | nil =>
      obtain ⟨rfl, rfl⟩ := plays_pure h
      exact ⟨[], rfl, .inl ⟨rfl, rfl⟩⟩
  | cons p rest ih =>
      rcases plays_bind h with ⟨error, hcost, rfl⟩ | ⟨cost, first, later, rfl, hcost, hlater⟩
      -- What the lines after a failure would have come to is not known, and anything will do.
      · obtain ⟨c, hc, ⟨_, ⟨⟩⟩ | ⟨_, hstops, ⟨⟩⟩⟩ := plays_inCurrency hcost
        obtain ⟨planned, hplanned⟩ := exists_planned target rest
        refine ⟨⟨p.line, c⟩ :: planned, by simp [hplanned, PlannedLine.listed, hc],
          .inr ⟨error, ?_, rfl⟩⟩
        rw [List.flatMap_cons, List.map_append]
        exact hstops.append
      · obtain ⟨c, hc, ⟨rfl, ⟨⟩⟩ | ⟨_, _, ⟨⟩⟩⟩ := plays_inCurrency hcost
        rcases plays_bind hlater with
          ⟨error, hrest, rfl⟩ | ⟨value, second, final, rfl, hrest, hpure⟩
        · obtain ⟨planned, hplanned, ⟨_, ⟨⟩⟩ | ⟨_, hstops, ⟨⟩⟩⟩ := ih hrest
          refine ⟨⟨p.line, c⟩ :: planned, by simp [hplanned, PlannedLine.listed, hc],
            .inr ⟨error, ?_, rfl⟩⟩
          rw [List.flatMap_cons, List.map_append]
          exact hstops.prepend _
        · obtain ⟨planned, hplanned, ⟨rfl, ⟨⟩⟩ | ⟨_, _, ⟨⟩⟩⟩ := ih hrest
          obtain ⟨rfl, rfl⟩ := plays_pure hpure
          exact ⟨⟨p.line, c⟩ :: planned, by simp [hplanned, PlannedLine.listed, hc],
            .inl ⟨by simp, rfl⟩⟩

/-- Lines that are planned from the listed lines of a cart are the lines of the cart. -/
theorem map_line_of_listed {target : CurrencyCode} {planned : List (PlannedLine target)}
    {lines : List CartLine}
    (h : (planned.map PlannedLine.listed).map PricedLine.line = lines) :
    planned.map PlannedLine.line = lines := by
  rw [← h, List.map_map]
  rfl

/-- Everything is brought into the currency of the request and added up, unless a call fails or
there is no total. -/
theorem plays_addedUp {request : ValidRequest} {cart : Cart} {listed : List PricedLine}
    {cost : Money} {result : Except PlacementError Priced}
    (hlisted : listed.map PricedLine.line = cart.lines)
    (h : Plays (addedUp request listed cost) events result) :
    ∃ plan : Plan request, plan.cart = cart ∧ plan.lines.map PlannedLine.listed = listed ∧
      plan.shipping.source = cost ∧
      ((∃ error, StopsAt (plan.conversions.map .asked) events error ∧ result = .error error) ∨
      (∃ error, plan.total? = .error error ∧ events = plan.conversions.map .asked ∧
        result = .error (.invalidAmount .prepareTotal error)) ∨
      (∃ total, plan.total? = .ok total ∧ events = plan.conversions.map .asked ++ [plan.prepared] ∧
        result = .ok ⟨plan.pricedLines, plan.shipping.amount, total⟩)) := by
  rcases plays_bind h with ⟨error, hlines, rfl⟩ | ⟨value, first, after, rfl, hlines, hafter⟩
  · obtain ⟨planned, rfl, ⟨_, ⟨⟩⟩ | ⟨_, hstops, ⟨⟩⟩⟩ := plays_linesInCurrency hlines
    refine ⟨⟨cart, planned, map_line_of_listed hlisted, .ofSource cost⟩, rfl, rfl, by simp,
      .inl ⟨error, ?_, rfl⟩⟩
    rw [Plan.conversions, List.map_append]
    exact hstops.append
  obtain ⟨planned, rfl, ⟨rfl, ⟨⟩⟩ | ⟨_, _, ⟨⟩⟩⟩ := plays_linesInCurrency hlines
  rcases plays_bind hafter with ⟨error, hcost, rfl⟩ | ⟨value, second, last, rfl, hcost, hlast⟩
  · obtain ⟨c, rfl, ⟨_, ⟨⟩⟩ | ⟨_, hstops, ⟨⟩⟩⟩ := plays_inCurrency hcost
    refine ⟨⟨cart, planned, map_line_of_listed hlisted, c⟩, rfl, rfl, rfl, .inl ⟨error, ?_, rfl⟩⟩
    rw [Plan.conversions, List.map_append]
    exact hstops.prepend _
  obtain ⟨c, rfl, ⟨rfl, ⟨⟩⟩ | ⟨_, _, ⟨⟩⟩⟩ := plays_inCurrency hcost
  let plan : Plan request := ⟨cart, planned, map_line_of_listed hlisted, c⟩
  refine ⟨plan, rfl, rfl, rfl, .inr ?_⟩
  rcases plays_bind hlast with ⟨error, htotal, rfl⟩ | ⟨total, third, rest, rfl, htotal, hrest⟩
  · obtain ⟨rfl, ⟨_, _, ⟨⟩⟩ | ⟨moneyError, htotal?, ⟨⟩⟩⟩ := plays_require htotal
    exact .inl ⟨moneyError, htotal?, by simp [Plan.conversions, plan], rfl⟩
  · obtain ⟨rfl, ⟨_, htotal?, ⟨⟩⟩ | ⟨_, _, ⟨⟩⟩⟩ := plays_require htotal
    obtain ⟨final, rfl, hfinal⟩ := (tells_note _).plays_bind hrest
    obtain ⟨rfl, rfl⟩ := plays_pure hfinal
    exact .inr ⟨total, htotal?,
      by simp [Plan.conversions, Plan.prepared, Plan.pricedLines, plan], rfl⟩

/-- Everything is priced according to a plan, unless one of its calls fails or there is no total. -/
theorem plays_priced {request : ValidRequest} {cart : Cart} {result : Except PlacementError Priced}
    (h : Plays (priced request cart) events result) :
    ∃ plan : Plan request, plan.cart = cart ∧
      ((∃ error, StopsAt (plan.inquiries.map .asked) events error ∧ result = .error error) ∨
      (∃ error, plan.total? = .error error ∧ events = plan.inquiries.map .asked ∧
        result = .error (.invalidAmount .prepareTotal error)) ∨
      (∃ total, plan.total? = .ok total ∧ events = plan.inquiries.map .asked ++ [plan.prepared] ∧
        result = .ok ⟨plan.pricedLines, plan.shipping.amount, total⟩)) := by
  rcases plays_bind h with ⟨error, hlines, rfl⟩ | ⟨value, first, after, rfl, hlines, hafter⟩
  · obtain ⟨listed, hlisted, ⟨_, ⟨⟩⟩ | ⟨_, hstops, ⟨⟩⟩⟩ := plays_pricedLines hlines
    obtain ⟨planned, rfl⟩ := exists_planned request.currency listed
    refine ⟨⟨cart, planned, map_line_of_listed hlisted, .ofSource (.zero .usd)⟩, rfl,
      .inl ⟨error, ?_, rfl⟩⟩
    rw [Plan.inquiries, List.map_append]
    exact hstops.append
  obtain ⟨_, hlisted, ⟨rfl, ⟨⟩⟩ | ⟨_, _, ⟨⟩⟩⟩ := plays_pricedLines hlines
  rcases plays_bind hafter with ⟨error, hquote, rfl⟩ | ⟨cost, second, last, rfl, hquote, hlast⟩
  · rcases plays_call rfl hquote with ⟨_, _, _, ⟨⟩⟩ | ⟨failure, _, rfl, hblame, ⟨⟩⟩
    obtain ⟨planned, rfl⟩ := exists_planned request.currency value
    refine ⟨⟨cart, planned, map_line_of_listed hlisted, .ofSource (.zero .usd)⟩, rfl,
      .inl ⟨error, ?_, rfl⟩⟩
    rw [Plan.inquiries, List.map_append]
    exact (StopsAt.head (⟨.getQuote request.address cart.lines, _⟩) hblame).prepend _
  rcases plays_call rfl hquote with ⟨_, -, rfl, ⟨⟩⟩ | ⟨_, _, _, _, ⟨⟩⟩
  obtain ⟨plan, rfl, rfl, rfl, hplan⟩ := plays_addedUp hlisted hlast
  refine ⟨plan, rfl, ?_⟩
  simp only [Plan.inquiries, List.map_append, List.map_cons]
  rcases hplan with ⟨error, hstops, rfl⟩ | ⟨error, htotal, rfl, rfl⟩ | ⟨total, htotal, rfl, rfl⟩
  · exact .inl ⟨error, (hstops.prepend [.asked plan.quoting]).prepend _, rfl⟩
  · exact .inr (.inl ⟨error, htotal, rfl, rfl⟩)
  · exact .inr (.inr ⟨total, htotal, by simp [Plan.quoting, Plan.lookups], rfl⟩)

/-- The passage from one stage to the next is noted. -/
theorem tells_advance {id : OrderId} {stage next : Stage} (h : stage.next? = some next) :
    Tells (advance id stage) [.noted (.progress id stage next)] () := by
  unfold advance
  rw [h]
  exact tells_note _

/-- A diversion is warned of. -/
theorem tells_warnOfDiversion (id : OrderId) (diverted : Bool) :
    Tells (warnOfDiversion id diverted) (diverting id diverted) () := by
  cases diverted with
  | false => exact tells_pure ()
  | true => exact tells_note _

/-- The total is charged, or the charge fails. -/
theorem plays_pay {id : OrderId} {request : ValidRequest} {total : Money}
    {result : Except PlacementError String} (h : Plays (pay id request total) events result) :
    ∃ diverted,
      (∃ failure error, events = charging id total request.card diverted (.error failure) ∧
        (Request.charge total request.card diverted).blame? failure = some error ∧
        result = .error error) ∨
      ∃ transaction, events = charging id total request.card diverted (.ok transaction) ++
        charged id total transaction ∧ result = .ok transaction := by
  rcases plays_bind h with ⟨_, hconsult, -⟩ | ⟨diverted, first, after, rfl, hconsult, hafter⟩
  · obtain ⟨_, -, ⟨⟩⟩ := plays_consult hconsult
  obtain ⟨_, rfl, ⟨⟩⟩ := plays_consult hconsult
  obtain ⟨last, rfl, hlast⟩ := (tells_warnOfDiversion id diverted).plays_bind hafter
  refine ⟨diverted, ?_⟩
  rcases plays_bind hlast with
    ⟨error, hcharge, rfl⟩ | ⟨transaction, second, rest, rfl, hcharge, hrest⟩
  · rcases plays_call rfl hcharge with ⟨_, _, _, ⟨⟩⟩ | ⟨failure, _, rfl, hblame, ⟨⟩⟩
    exact .inl ⟨failure, error, rfl, hblame, rfl⟩
  · rcases plays_call rfl hcharge with ⟨_, -, rfl, ⟨⟩⟩ | ⟨_, _, _, _, ⟨⟩⟩
    obtain ⟨third, rfl, hthird⟩ := (tells_note _).plays_bind hrest
    obtain ⟨fourth, rfl, hfourth⟩ := (tells_note _).plays_bind hthird
    obtain ⟨rfl, rfl⟩ := plays_pure hfourth
    exact .inr ⟨transaction, by simp [charging, charged, logged], rfl⟩

/-- The order is handed to the carrier, or it is noted that the charge stays. -/
theorem plays_dispatch {id : OrderId} {request : ValidRequest} {cart : Cart} {transaction : String}
    {result : Except PlacementError String}
    (h : Plays (dispatch id request cart transaction) events result) :
    (∃ failure error,
      events = [.asked ⟨.shipOrder request.address cart.lines, .error failure⟩,
        chargedInVain id transaction] ∧
      (Request.shipOrder request.address cart.lines).blame? failure = some error ∧
      result = .error error) ∨
    ∃ tracking, events = [.asked ⟨.shipOrder request.address cart.lines, .ok tracking⟩,
        .noted (.event "shipped" [("app.shipping.tracking.id", .text tracking)])] ∧
      result = .ok tracking := by
  rcases plays_bind h with ⟨error, hship, rfl⟩ | ⟨tracking, first, rest, rfl, hship, hrest⟩
  · rcases plays_tryCatch hship with ⟨_, _, ⟨⟩⟩ | ⟨other, first, rest, rfl, hship, hrest⟩
    obtain ⟨last, rfl, hthrow⟩ := (tells_note _).plays_bind hrest
    obtain ⟨rfl, hother⟩ := plays_throw hthrow
    cases hother
    rcases plays_call rfl hship with ⟨_, _, _, ⟨⟩⟩ | ⟨failure, _, rfl, hblame, ⟨⟩⟩
    exact .inl ⟨failure, error, rfl, hblame, rfl⟩
  -- A failure that is caught is thrown again, so a shipment that goes on was answered.
  · rcases plays_tryCatch hship with ⟨_, hship, ⟨⟩⟩ | ⟨_, _, _, rfl, _, hthrow⟩
    · rcases plays_call rfl hship with ⟨_, -, rfl, ⟨⟩⟩ | ⟨_, _, _, _, ⟨⟩⟩
      obtain ⟨last, rfl, hlast⟩ := (tells_note _).plays_bind hrest
      obtain ⟨rfl, rfl⟩ := plays_pure hlast
      exact .inr ⟨tracking, rfl, rfl⟩
    · obtain ⟨_, rfl, hnever⟩ := (tells_note _).plays_bind hthrow
      exact nomatch (plays_throw hnever).2

/-- The cart is emptied, or it is noted that it was not. -/
theorem plays_clearCart {user : UserId} {result : Except PlacementError Unit}
    (h : Plays (clearCart user) events result) :
    ∃ answer, events = clearing user answer ∧ result = .ok () := by
  rcases plays_bind h with ⟨_, hempty, -⟩ | ⟨value, first, rest, rfl, hempty, hrest⟩
  · obtain ⟨_, _, _, ⟨⟩⟩ := plays_attempt hempty
  obtain ⟨answer, -, rfl, hvalue⟩ := plays_attempt hempty
  refine ⟨answer, ?_⟩
  cases answer with
  | ok accepted =>
      cases hvalue
      obtain ⟨rfl, rfl⟩ := plays_pure hrest
      exact ⟨rfl, rfl⟩
  | error failure =>
      cases hvalue
      obtain ⟨rfl, rfl⟩ := tells_note _ _ _ hrest
      exact ⟨rfl, rfl⟩

/-- The order is complete, and its facts are noted. -/
theorem tells_complete (id : OrderId) (request : ValidRequest) (priced : Priced)
    (tracking : String) :
    Tells (complete id request priced tracking)
      (completing ⟨id, tracking, priced.shipping, request.address, priced.lines, priced.total⟩
        request.email)
      ⟨id, tracking, priced.shipping, request.address, priced.lines, priced.total⟩ :=
  (tells_note _).bind <| (tells_note _).bind <| (tells_note _).bind <| (tells_note _).bind <|
    (tells_note _).bind (tells_pure _)

/-- However the collaborators answer, a checkout goes as one of the ways of `Conforms`. -/
theorem conforms {id : OrderId} {request : OrderRequest} {result : Except PlacementError Order}
    (h : (placeOrder id request).Plays events result) : Conforms id request events result := by
  rcases plays_bind h with ⟨error, hvalid, rfl⟩ | ⟨valid, _, _, rfl, hvalid, hopen⟩
  · obtain ⟨rfl, ⟨_, _, ⟨⟩⟩ | ⟨defect, hvalidate, ⟨⟩⟩⟩ := plays_require hvalid
    exact .refused hvalidate
  obtain ⟨rfl, ⟨_, hvalidate, ⟨⟩⟩ | ⟨_, _, ⟨⟩⟩⟩ := plays_require hvalid
  obtain ⟨_, rfl, hfetch⟩ := (tells_note _).plays_bind hopen
  rcases plays_bind hfetch with ⟨error, hcart, rfl⟩ | ⟨cart, _, _, rfl, hcart, hfetched⟩
  · rcases plays_call rfl hcart with ⟨_, _, _, ⟨⟩⟩ | ⟨failure, _, rfl, hblame, ⟨⟩⟩
    -- There is no cart yet, so a plan for the empty one is as good as any.
    let plan : Plan valid := ⟨⟨[], nofun⟩, [], rfl, .ofSource (.zero .usd)⟩
    exact .stopped plan hvalidate
      ((StopsAt.head (⟨.getCart valid.user, .ok plan.cart⟩) hblame).prepend [_])
  rcases plays_call rfl hcart with ⟨_, -, rfl, ⟨⟩⟩ | ⟨_, _, _, _, ⟨⟩⟩
  obtain ⟨_, rfl, hprice⟩ := (tells_advance rfl).plays_bind hfetched
  rcases plays_bind hprice with ⟨error, hpriced, rfl⟩ | ⟨priced, _, _, rfl, hpriced, hknown⟩
  · obtain ⟨plan, rfl, hways⟩ := plays_priced hpriced
    rcases hways with ⟨_, hstops, ⟨⟩⟩ | ⟨_, htotal, rfl, ⟨⟩⟩ | ⟨_, _, _, ⟨⟩⟩
    · exact .stopped plan hvalidate (hstops.prepend [_, _, _])
    · exact .unpayable plan hvalidate htotal
  obtain ⟨plan, rfl, hways⟩ := plays_priced hpriced
  rcases hways with ⟨_, _, ⟨⟩⟩ | ⟨_, _, _, ⟨⟩⟩ | ⟨total, htotal, rfl, ⟨⟩⟩
  obtain ⟨_, rfl, hcharge⟩ := (tells_advance rfl).plays_bind hknown
  rcases plays_bind hcharge with ⟨error, hpay, rfl⟩ | ⟨transaction, _, _, rfl, hpay, hcharged⟩
  · obtain ⟨diverted, ⟨failure, _, rfl, hblame, ⟨⟩⟩ | ⟨_, _, ⟨⟩⟩⟩ := plays_pay hpay
    have huncharged : Conforms id request _ _ :=
      .uncharged plan diverted failure hvalidate htotal hblame
    simpa [toCharge, Plan.opening] using huncharged
  obtain ⟨diverted, ⟨_, _, _, _, ⟨⟩⟩ | ⟨_, rfl, ⟨⟩⟩⟩ := plays_pay hpay
  obtain ⟨_, rfl, hsend⟩ := (tells_advance rfl).plays_bind hcharged
  rcases plays_bind hsend with ⟨error, hship, rfl⟩ | ⟨tracking, _, _, rfl, hship, hshipped⟩
  · rcases plays_dispatch hship with ⟨failure, _, rfl, hblame, ⟨⟩⟩ | ⟨_, _, ⟨⟩⟩
    have hunshipped : Conforms id request _ _ :=
      .unshipped plan diverted transaction failure hvalidate htotal hblame
    simpa [toShipment, toCharge, Plan.opening] using hunshipped
  rcases plays_dispatch hship with ⟨_, _, _, _, ⟨⟩⟩ | ⟨_, rfl, ⟨⟩⟩
  obtain ⟨_, rfl, hempty⟩ := (tells_advance rfl).plays_bind hshipped
  rcases plays_bind hempty with ⟨error, hclear, rfl⟩ | ⟨_, _, _, rfl, hclear, hcleared⟩
  · obtain ⟨_, _, ⟨⟩⟩ := plays_clearCart hclear
  obtain ⟨answer, rfl, ⟨⟩⟩ := plays_clearCart hclear
  obtain ⟨_, rfl, hcomplete⟩ := (tells_advance rfl).plays_bind hcleared
  obtain ⟨_, rfl, hcompleted⟩ := (tells_complete id valid _ tracking).plays_bind hcomplete
  obtain ⟨_, rfl, hdone⟩ := (tells_advance rfl).plays_bind hcompleted
  obtain ⟨rfl, rfl⟩ := plays_pure hdone
  have hplaced : Conforms id request _ _ :=
    .placed plan diverted transaction tracking answer hvalidate htotal
  simpa [toEnd, toShipment, toCharge, Plan.opening, Plan.order] using hplaced

end Checkout

end Storefront
