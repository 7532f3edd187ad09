import Storefront.Proofs.Checkout.Failure

/-!
# Orders while charges are diverted

While charges are diverted nothing is asked that does any harm: `Request.isHarmless` is an inquiry
or a charge that goes nowhere. So an order fails at the charge or before it, and unless the charge
is interrupted its error tells the address. The main result is `Checkout.Conforms.failsDiverted`.
-/

namespace Storefront

/-- The request asks for something, or for a charge that is diverted. -/
def Request.isHarmless : Request → Bool
  | .charge _ _ diverted => diverted
  | request => request.isInquiry

/-- An inquiry is harmless. -/
theorem Request.isHarmless_of_isInquiry {request : Request} (h : request.isInquiry = true) :
    request.isHarmless = true := by
  cases request with
  | charge => cases h
  | getCart | getProduct | getQuote | convert | shipOrder | emptyCart | confirm => exact h

/-- The steps before the charge. -/
def Step.beforeCharge : List Step :=
  [.validate, .getCart, .getProduct, .convertCurrency, .quoteShipping, .prepareTotal]

/-- How an order fails whose charge is diverted to an address, given what happened on the way. -/
structure FailsDiverted (address : String) (request : OrderRequest) (events : List Event)
    (error : PlacementError) : Prop where
  /-- The error names the step that failed. -/
  failsAt : Checkout.FailsAt request events error.step
  /-- That is the charge or a step before it. -/
  step_mem : error.step ∈ Step.beforeCharge ++ [.chargePayment]
  /-- Nothing was asked but inquiries and a charge that went nowhere. -/
  harmless : ∀ call ∈ callsOf events, call.request.isHarmless = true
  /-- If no step before the charge failed and the charge was not interrupted, the error tells the
  address at which nobody answers. -/
  unreachable : error.step ∉ Step.beforeCharge →
    (∀ call ∈ callsOf events, call.request.step = .chargePayment → call.isInterrupted = false) →
    error = .paymentFailed (.unavailable ("connection refused: " ++ address))

/-- What happens while charges are diverted to an address: every charge is diverted, and it is
interrupted or finds nobody there. -/
structure IsDiverted (address : String) (events : List Event) : Prop where
  consulted : ∀ diverted ∈ consultations events, diverted = true
  charged : ∀ amount card answer, ⟨.charge amount card true, answer⟩ ∈ callsOf events →
    (∃ reason, answer = .error (.interrupted reason)) ∨
      answer = .error (.transport (.unavailable ("connection refused: " ++ address)))

/-- No charge that is diverted is answered with the name of a payment. -/
theorem IsDiverted.not_paid {address : String} {events : List Event}
    (h : IsDiverted address events) (amount : Money) (card : Card) (transaction : String) :
    ⟨.charge amount card true, .ok transaction⟩ ∉ callsOf events := by
  intro hcall
  rcases h.charged amount card _ hcall with ⟨_, hanswer⟩ | hanswer <;> cases hanswer

/-- What is asked for the price is asked before the charge. -/
theorem Step.mem_beforeCharge_of_isInquiry {request : Request} (h : request.isInquiry = true) :
    request.step ∈ beforeCharge := by
  have hstep := Request.step_of_isInquiry h
  revert hstep
  generalize request.step = step
  revert step
  decide

variable {address : String} {id : OrderId} {order : OrderRequest} {events : List Event}
  {result : Except PlacementError Order} {error : PlacementError}

/-- How an order fails at a step before the charge. -/
theorem FailsDiverted.before_charge (hconforms : Checkout.Conforms id order events (.error error))
    (hcalls : ∀ call ∈ callsOf events, call.request.isHarmless = true)
    (hstep : error.step ∈ Step.beforeCharge) : FailsDiverted address order events error where
  failsAt := hconforms.ends.failsAt
  step_mem := List.mem_append_left _ hstep
  harmless := hcalls
  unreachable hlater _ := absurd hstep hlater

/-- While charges are diverted an order fails at the charge or before it. -/
theorem Checkout.Conforms.failsDiverted (hconforms : Checkout.Conforms id order events result)
    (hdiverted : IsDiverted address events) :
    ∃ error, result = .error error ∧ FailsDiverted address order events error := by
  have hpricing : ∀ {valid : ValidRequest} (plan : Plan valid), ∀ call ∈ plan.pricing,
      call.request.isHarmless = true := fun _ _ hcall ↦
    Request.isHarmless_of_isInquiry (Plan.isInquiry_of_mem_pricing hcall)
  have hends := hconforms
  cases hconforms with
  | refused hvalid =>
      refine ⟨_, rfl, .before_charge hends nofun ?_⟩
      simp [PlacementError.step, Step.beforeCharge]
  | stopped plan hvalid hstops =>
      have hinquiries := Checkout.isInquiry_of_stopsAt hstops
      refine ⟨_, rfl, .before_charge hends
        (fun c hc ↦ Request.isHarmless_of_isInquiry (hinquiries c hc)) ?_⟩
      obtain ⟨before, call, failure, hstart, -, hblame⟩ := Checkout.calls_of_stopsAt hstops
      have hcall : call ∈ plan.pricing := hstart.subset (by simp)
      rw [(Request.explains_of_blame? hblame).1]
      exact Step.mem_beforeCharge_of_isInquiry (Plan.isInquiry_of_mem_pricing hcall)
  | unpayable plan hvalid htotal =>
      refine ⟨_, rfl, .before_charge hends ?_ ?_⟩
      · rw [Checkout.callsOf_opening]
        exact hpricing plan
      · simp [PlacementError.step, Step.beforeCharge]
  | @uncharged valid total error plan diverted failure hvalid htotal hblame =>
      obtain rfl := hdiverted.consulted diverted (by rw [Checkout.consultations_toCharge]; simp)
      have hcharge : (⟨.charge total valid.card true, .error failure⟩ : Call) ∈ callsOf
          (Checkout.toCharge plan id total true (.error failure)) := by
        rw [Checkout.callsOf_toCharge]
        simp
      have hstep : error.step = .chargePayment := (Request.explains_of_blame? hblame).1
      refine ⟨error, rfl, hends.ends.failsAt, by simp [hstep], ?_, fun _ hanswered ↦ ?_⟩
      · rw [Checkout.callsOf_toCharge, List.forall_mem_append, List.forall_mem_singleton]
        exact ⟨hpricing plan, rfl⟩
      · rcases hdiverted.charged _ _ _ hcharge with ⟨reason, hanswer⟩ | hanswer
        · cases hanswer
          cases hanswered _ hcharge rfl
        · cases hanswer
          cases hblame
          rfl
  -- Neither of the others happens without a payment.
  | @unshipped valid total error plan diverted transaction failure hvalid htotal hblame =>
      obtain rfl := hdiverted.consulted diverted (by
        rw [consultations_append, Checkout.consultations_toShipment]
        simp)
      refine absurd ?_ (hdiverted.not_paid total valid.card transaction)
      rw [callsOf_append, Checkout.callsOf_toShipment]
      simp
  | @placed valid total plan diverted transaction tracking answer hvalid htotal =>
      obtain rfl := hdiverted.consulted diverted (by rw [Checkout.consultations_toEnd]; simp)
      refine absurd ?_ (hdiverted.not_paid total valid.card transaction)
      rw [Checkout.callsOf_toEnd]
      simp

end Storefront
