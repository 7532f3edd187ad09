import Storefront.Proofs.Checkout.Plan

/-!
# The calls of a checkout

Of all that is said during a checkout, what is asked of collaborators. Up to the charge a plan only
inquires; the charge, the shipment, and the emptying of the cart follow in this order. The error of
an order that stops at a call names the step of the call and carries the failure.
-/

namespace Storefront

/-- The request asks for something and changes nothing. -/
def Request.isInquiry : Request → Bool
  | .getCart _ | .getProduct _ | .getQuote .. | .convert .. => true
  | .charge .. | .shipOrder .. | .emptyCart _ | .confirm _ => false

/-- What the request charges, if it charges anything. -/
def Request.charged? : Request → Option Money
  | .charge amount _ _ => some amount
  | _ => none

/-- Nothing is charged by an inquiry. -/
theorem Request.charged?_of_isInquiry {request : Request} (h : request.isInquiry = true) :
    request.charged? = none := by
  cases request with
  | charge => cases h
  | getCart | getProduct | getQuote | convert | shipOrder | emptyCart | confirm => rfl

/-- Inquiries belong to the steps before the total. -/
theorem Request.step_of_isInquiry {request : Request} (h : request.isInquiry = true) :
    request.step ∈ [.getCart, .getProduct, .quoteShipping, .convertCurrency] := by
  cases request with
  | getCart | getProduct | getQuote | convert => simp [step]
  | charge | shipOrder | emptyCart | confirm => cases h

/-- No inquiry belongs to another step. -/
theorem Request.step_ne_of_isInquiry {request : Request} {step : Step}
    (hstep : step ∉ [Step.getCart, .getProduct, .quoteShipping, .convertCurrency])
    (h : request.isInquiry = true) : request.step ≠ step := by
  rintro rfl
  exact hstep (step_of_isInquiry h)

/-- The total is formed without a call. -/
theorem Request.step_ne_prepareTotal (request : Request) : request.step ≠ .prepareTotal := by
  cases request <;> nofun

/-- The error is the one that a failed call ends an order with: an interruption names the step of
the call, and any other failure is carried by the error of that step. -/
def PlacementError.Explains (error : PlacementError) (request : Request) : CallFailure → Prop
  | .interrupted .cancelled => error = .cancelled request.step
  | .interrupted .deadlineExceeded => error = .deadlineExceeded request.step
  | .transport cause => request.ownError?.map (fun wrap ↦ wrap cause) = some error ∧
      error.transport? = some cause

/-- An error of a step of its own names the step and carries the failure. -/
theorem Request.ownError_spec {request : Request} {wrap : TransportError → PlacementError}
    (h : request.ownError? = some wrap) (cause : TransportError) :
    (wrap cause).step = request.step ∧ (wrap cause).transport? = some cause := by
  cases request with
  | emptyCart | confirm => cases h
  | getCart | getProduct | getQuote | convert | charge | shipOrder =>
      cases h
      exact ⟨rfl, rfl⟩

/-- The error that a call is blamed with names its step and explains its failure. -/
theorem Request.explains_of_blame? {request : Request} {failure : CallFailure}
    {error : PlacementError} (h : request.blame? failure = some error) :
    error.step = request.step ∧ error.Explains request failure := by
  obtain ⟨wrap, hown, rfl⟩ := Option.map_eq_some_iff.mp h
  match failure with
  | .interrupted .cancelled => exact ⟨rfl, rfl⟩
  | .interrupted .deadlineExceeded => exact ⟨rfl, rfl⟩
  | .transport cause =>
      obtain ⟨hstep, htransport⟩ := ownError_spec hown cause
      exact ⟨hstep, by rw [hown]; rfl, htransport⟩

/-- No call is blamed by an amount that cannot be formed. -/
theorem Request.blame?_ne_invalidAmount {request : Request} {failure : CallFailure} {step : Step}
    {cause : MoneyError} : request.blame? failure ≠ some (.invalidAmount step cause) := by
  intro h
  obtain ⟨-, hexplains⟩ := explains_of_blame? h
  match failure with
  | .interrupted .cancelled => cases hexplains
  | .interrupted .deadlineExceeded => cases hexplains
  | .transport _ => cases hexplains.2

/-- A call fails the order exactly if it is not one of the last two. -/
theorem Request.exists_blame?_iff {request : Request} {failure : CallFailure} :
    (∃ error, request.blame? failure = some error) ↔ request.step.isBestEffort = false := by
  cases request <;> simp [blame?, ownError?, step, Step.isBestEffort]

/-- The call was answered. -/
def Call.succeeded (call : Call) : Bool :=
  call.answer.isOk

namespace Conversion

variable {target : CurrencyCode}

/-- A conversion inquires and is answered. -/
theorem of_mem_calls {c : Conversion target} {call : Call} (h : call ∈ c.calls) :
    call.request.isInquiry = true ∧ call.succeeded = true := by
  unfold calls at h
  split at h
  · cases h
  · rw [List.mem_singleton.mp h]
    exact ⟨rfl, rfl⟩

/-- What an amount comes to can be told from its calls, whatever comes after them. -/
theorem eq_of_calls_append {c d : Conversion target} {rest more : List Call}
    (hsource : c.source = d.source) (h : c.calls ++ rest = d.calls ++ more) :
    c = d ∧ rest = more := by
  obtain ⟨source, amount, hcurrency, hsame⟩ := c
  obtain ⟨_, other, _, hother⟩ := d
  cases hsource
  unfold calls at h
  by_cases hin : source.currency = target
  · -- There is no call, and neither amount can differ from its source.
    rw [if_pos hin, if_pos hin] at h
    cases (hsame hin).trans (hother hin).symm
    exact ⟨rfl, h⟩
  · rw [if_neg hin, if_neg hin] at h
    obtain ⟨hcall, hrest⟩ := List.cons.inj h
    cases hcall
    exact ⟨rfl, hrest⟩

end Conversion

/-- Lines of one cart can be told from the prices that the catalog tells and from the calls of
their conversions, whatever comes after them. -/
theorem PlannedLine.eq_of_calls_append {target : CurrencyCode} {ps qs : List (PlannedLine target)}
    {rest more : List Call} (hlines : ps.map PlannedLine.line = qs.map PlannedLine.line)
    (hlookups : (ps.map PlannedLine.listed).map PricedLine.lookup =
      (qs.map PlannedLine.listed).map PricedLine.lookup)
    (h : ps.flatMap (fun p ↦ p.cost.calls) ++ rest = qs.flatMap (fun p ↦ p.cost.calls) ++ more) :
    ps = qs ∧ rest = more := by
  induction ps generalizing qs with
  | nil =>
      cases qs with
      | nil => exact ⟨rfl, h⟩
      | cons => cases hlines
  | cons p ps ih =>
      cases qs with
      | nil => cases hlines
      | cons q qs =>
          obtain ⟨hline, hlines⟩ := List.cons.inj hlines
          obtain ⟨hlookup, hlookups⟩ := List.cons.inj hlookups
          rw [List.flatMap_cons, List.flatMap_cons, List.append_assoc, List.append_assoc] at h
          have hsource : p.cost.source = q.cost.source := by
            injection hlookup with _ hanswer
            exact Except.ok.inj hanswer
          obtain ⟨hcost, h⟩ := Conversion.eq_of_calls_append hsource h
          obtain ⟨rfl, hrest⟩ := ih hlines hlookups h
          obtain ⟨line, cost⟩ := p
          cases hline
          cases hcost
          exact ⟨rfl, hrest⟩

namespace Plan

variable {request : ValidRequest}

/-- Up to the charge there are inquiries only, and all are answered. -/
theorem of_mem_pricing {plan : Plan request} {call : Call} (h : call ∈ plan.pricing) :
    call.request.isInquiry = true ∧ call.succeeded = true := by
  unfold pricing inquiries at h
  rcases List.mem_cons.mp h with rfl | h
  · exact ⟨rfl, rfl⟩
  rcases List.mem_append.mp h with hlookup | h
  · obtain ⟨p, -, rfl⟩ := List.mem_map.mp hlookup
    exact ⟨rfl, rfl⟩
  rcases List.mem_cons.mp h with rfl | h
  · exact ⟨rfl, rfl⟩
  rcases List.mem_append.mp h with hline | hshipping
  · obtain ⟨p, -, hcall⟩ := List.mem_flatMap.mp hline
    exact Conversion.of_mem_calls hcall
  · exact Conversion.of_mem_calls hshipping

/-- Up to the charge there are inquiries only. -/
theorem isInquiry_of_mem_pricing {plan : Plan request} {call : Call} (h : call ∈ plan.pricing) :
    call.request.isInquiry = true :=
  (of_mem_pricing h).1

/-- Nothing is charged before the charge. -/
@[simp] theorem filterMap_charged?_pricing (plan : Plan request) :
    plan.pricing.filterMap (fun call ↦ call.request.charged?) = [] :=
  List.filterMap_eq_nil_iff.mpr fun _ hcall ↦
    Request.charged?_of_isInquiry (isInquiry_of_mem_pricing hcall)

/-- A plan can be told from its calls, whatever comes after them. -/
theorem eq_of_pricing_append {plan other : Plan request} {rest more : List Call}
    (h : plan.pricing ++ rest = other.pricing ++ more) : plan = other ∧ rest = more := by
  obtain ⟨cart, lines, hlines, shipping⟩ := plan
  obtain ⟨otherCart, others, hothers, otherShipping⟩ := other
  rw [pricing, pricing, List.cons_append, List.cons_append] at h
  obtain ⟨hfirst, h⟩ := List.cons.inj h
  cases hfirst
  -- One cart has one number of lookups, so what follows them starts at the same place.
  have hsame : lines.map PlannedLine.line = others.map PlannedLine.line := hlines.trans hothers.symm
  have hlength : lines.length = others.length := by
    simpa using congrArg List.length hsame
  unfold inquiries lookups conversions at h
  rw [List.append_assoc, List.append_assoc, List.cons_append, List.cons_append] at h
  obtain ⟨hlookups, h⟩ := List.append_inj h (by simp [hlength])
  obtain ⟨hquoting, h⟩ := List.cons.inj h
  have hsource : shipping.source = otherShipping.source := by
    injection hquoting with _ hanswer
    exact Except.ok.inj hanswer
  rw [List.append_assoc, List.append_assoc] at h
  obtain ⟨rfl, h⟩ := PlannedLine.eq_of_calls_append hsame hlookups h
  obtain ⟨rfl, hrest⟩ := Conversion.eq_of_calls_append hsource h
  exact ⟨rfl, hrest⟩

/-- The calls of a checkout start with those of one plan at most. -/
theorem eq_of_pricing_prefix {plan other : Plan request} {calls : List Call}
    (h : plan.pricing <+: calls) (hother : other.pricing <+: calls) : plan = other := by
  obtain ⟨rest, rfl⟩ := h
  obtain ⟨more, hmore⟩ := hother
  exact (eq_of_pricing_append hmore.symm).1

end Plan

namespace Checkout

variable {request : ValidRequest} (plan : Plan request) (id : OrderId) (total : Money)
  (diverted : Bool)

@[simp] theorem callsOf_opening : callsOf (plan.opening id) = plan.pricing := by
  simp [Plan.opening, Plan.pricing]

@[simp] theorem consultations_opening : consultations (plan.opening id) = [] := by
  simp [Plan.opening]

variable {plan id} in
/-- Where an opening stops, the calls stop at one of those up to the charge. -/
theorem calls_of_stopsAt {events : List Event} {error : PlacementError}
    (h : StopsAt (plan.opening id) events error) :
    ∃ before call failure, before ++ [call] <+: plan.pricing ∧
      callsOf events = before ++ [⟨call.request, .error failure⟩] ∧
      call.request.blame? failure = some error := by
  obtain ⟨before, call, after, failure, hscript, rfl, hblame⟩ := h
  refine ⟨callsOf before, call, failure, ⟨callsOf after, ?_⟩, by simp, hblame⟩
  rw [← callsOf_opening plan id, hscript]
  simp

variable {plan id} in
/-- Where an opening stops, nothing but inquiries was made. -/
theorem isInquiry_of_stopsAt {events : List Event} {error : PlacementError}
    (h : StopsAt (plan.opening id) events error) :
    ∀ call ∈ callsOf events, call.request.isInquiry = true := by
  obtain ⟨before, call, failure, hstart, hcalls, -⟩ := calls_of_stopsAt h
  have hall : ∀ c ∈ before ++ [call], c.request.isInquiry = true := fun c hc ↦
    Plan.isInquiry_of_mem_pricing (hstart.subset hc)
  rw [List.forall_mem_append, List.forall_mem_singleton] at hall
  rw [hcalls, List.forall_mem_append, List.forall_mem_singleton]
  exact hall

variable {plan id} in
/-- Where an opening stops, the policy for charges was not asked. -/
theorem consultations_of_stopsAt {events : List Event} {error : PlacementError}
    (h : StopsAt (plan.opening id) events error) : consultations events = [] := by
  obtain ⟨before, call, after, failure, hscript, rfl, -⟩ := h
  have hopening := consultations_opening plan id
  rw [hscript, consultations_append, List.append_eq_nil_iff] at hopening
  rw [consultations_append, hopening.1]
  rfl

@[simp] theorem callsOf_toCharge (answer : Except CallFailure String) :
    callsOf (toCharge plan id total diverted answer) =
      plan.pricing ++ [⟨.charge total request.card diverted, answer⟩] := by
  unfold toCharge charging diverting
  split <;> simp [Plan.prepared, logged]

@[simp] theorem consultations_toCharge (answer : Except CallFailure String) :
    consultations (toCharge plan id total diverted answer) = [diverted] := by
  unfold toCharge charging diverting
  split <;> simp [Plan.prepared, logged]

@[simp] theorem callsOf_toShipment (transaction : String) (answer : Except CallFailure String) :
    callsOf (toShipment plan id total diverted transaction answer) =
      plan.pricing ++ [⟨.charge total request.card diverted, .ok transaction⟩,
        ⟨.shipOrder request.address plan.cart.lines, answer⟩] := by
  simp [toShipment, charged, logged]

@[simp] theorem consultations_toShipment (transaction : String)
    (answer : Except CallFailure String) :
    consultations (toShipment plan id total diverted transaction answer) = [diverted] := by
  simp [toShipment, charged, logged]

@[simp] theorem callsOf_toEnd (transaction tracking : String) (answer : Except CallFailure Unit) :
    callsOf (toEnd plan id total diverted transaction tracking answer) =
      plan.pricing ++ [⟨.charge total request.card diverted, .ok transaction⟩,
        ⟨.shipOrder request.address plan.cart.lines, .ok tracking⟩,
        ⟨.emptyCart request.user, answer⟩] := by
  cases answer <;> simp [toEnd, clearing, completing]

@[simp] theorem consultations_toEnd (transaction tracking : String)
    (answer : Except CallFailure Unit) :
    consultations (toEnd plan id total diverted transaction tracking answer) = [diverted] := by
  cases answer <;> simp [toEnd, clearing, completing]

end Checkout

end Storefront
