import Storefront.Proofs.Shop.Outcome

/-!
# The sequence of calls

A checkout has one script: the cart, the price of each line, the price of shipping, the conversions,
and, if there is a total, the charge, the shipment, and the emptying of the cart. `Follows` says
that the calls of a checkout are the first of the script, that they stop at the first failure, and
that the result tells which it was. The main theorem is `calls_follow_script`.
-/

namespace Storefront

namespace Plan

variable {request : ValidRequest}

/-- All calls of a checkout in which none fails, as far as there is a total to charge. -/
def script (plan : Plan request) (diverted : Bool) (transaction tracking : String) : List Call :=
  plan.pricing ++
    match plan.total? with
    | .error _ => []
    | .ok total =>
        [⟨.charge total request.card diverted, .ok transaction⟩,
          ⟨.shipOrder request.address plan.cart.lines, .ok tracking⟩,
          ⟨.emptyCart request.user, .ok ()⟩]

/-- Without a total the script ends before the charge. -/
theorem script_of_error {plan : Plan request} {cause : MoneyError}
    (h : plan.total? = .error cause) (diverted : Bool) (transaction tracking : String) :
    plan.script diverted transaction tracking = plan.pricing := by
  unfold script
  rw [h, List.append_nil]

/-- With a total the script goes to the end. -/
theorem script_of_ok {plan : Plan request} {total : Money} (h : plan.total? = .ok total)
    (diverted : Bool) (transaction tracking : String) :
    plan.script diverted transaction tracking = plan.pricing ++
      [⟨.charge total request.card diverted, .ok transaction⟩,
        ⟨.shipOrder request.address plan.cart.lines, .ok tracking⟩,
        ⟨.emptyCart request.user, .ok ()⟩] := by
  unfold script
  rw [h]

/-- No call of the script fails. -/
theorem succeeded_of_mem_script {plan : Plan request} {diverted : Bool}
    {transaction tracking : String} {call : Call}
    (h : call ∈ plan.script diverted transaction tracking) : call.succeeded = true := by
  cases htotal : plan.total? with
  | error cause =>
      rw [script_of_error htotal] at h
      exact (of_mem_pricing h).2
  | ok total =>
      rw [script_of_ok htotal] at h
      rcases List.mem_append.mp h with hpricing | hlast
      · exact (of_mem_pricing hpricing).2
      · simp only [List.mem_cons, List.not_mem_nil, or_false] at hlast
        rcases hlast with rfl | rfl | rfl <;> rfl

end Plan

namespace Checkout

/-- What holds of the calls of a checkout that goes by a plan, given all that happened and the
result. -/
structure Follows {request : ValidRequest} (plan : Plan request) (diverted : Bool)
    (transaction tracking : String) (id : OrderId) (events : List Event)
    (result : Except PlacementError Order) : Prop where
  /-- What is asked is what the script asks, from the start and in order. -/
  asked : (callsOf events).map Call.request <+:
    (plan.script diverted transaction tracking).map Call.request
  /-- What is answered is what the script has as the answers. -/
  answered : (callsOf events).filter Call.succeeded <+: plan.script diverted transaction tracking
  /-- The policy for charges is asked once if there is a charge, which goes where it says. -/
  consulted : consultations events =
    ((callsOf events).filterMap fun call ↦ call.request.charged?).map fun _ ↦ diverted
  /-- The first failure, if it is not that of the last call, ends the checkout and is explained by
  the result. -/
  stops : ∀ before call after failure, callsOf events = before ++ call :: after →
    call.answer = .error failure → call.request.step ≠ .emptyCart →
    after = [] ∧ ∃ error, result = .error error ∧ error.step = call.request.step ∧
      error.Explains call.request failure
  /-- If nothing fails but the total, the checkout ends before the charge. -/
  unpayable : ∀ cause, plan.total? = .error cause →
    (∀ call ∈ callsOf events, call.succeeded = true) →
    callsOf events = plan.pricing ∧ result = .error (.invalidAmount .prepareTotal cause)
  /-- If nothing fails, or only the last call, all calls of the script are made and the order is
  placed. -/
  placed : ∀ total, plan.total? = .ok total →
    (∀ call ∈ callsOf events, call.request.step ≠ .emptyCart → call.succeeded = true) →
    (callsOf events).map Call.request =
      (plan.script diverted transaction tracking).map Call.request ∧
    result = .ok (plan.order id total tracking)

/-- A checkout that fails its validation asks nothing, and any other one follows a script. -/
def IsSequenced (id : OrderId) (request : OrderRequest) (events : List Event)
    (result : Except PlacementError Order) : Prop :=
  (∃ defect, request.validate = .error defect ∧ callsOf events = [] ∧
    result = .error (.invalidRequest defect)) ∨
  ∃ (valid : ValidRequest) (plan : Plan valid) (diverted : Bool) (transaction tracking : String),
    request.validate = .ok valid ∧ Follows plan diverted transaction tracking id events result

/-- A call that fails has not succeeded. -/
theorem succeeded_of_error {call : Call} {failure : CallFailure}
    (h : call.answer = .error failure) : call.succeeded = false := by
  unfold Call.succeeded
  rw [h]
  rfl

/-- Where only the last of several calls fails, a call that fails is the last one. -/
theorem eq_last_of_failed {before first after : List Call} {last call : Call}
    (hbefore : ∀ c ∈ before, c.succeeded = true) (h : before ++ [last] = first ++ call :: after)
    (hfailed : call.succeeded = false) : after = [] ∧ call = last := by
  -- If something came after the call, the call would be among those that succeeded.
  rcases List.eq_nil_or_concat after with rfl | ⟨middle, final, rfl⟩
  · obtain ⟨-, hlast⟩ := List.append_inj' h rfl
    exact ⟨rfl, (List.cons.inj hlast).1.symm⟩
  · rw [List.concat_eq_append, ← List.cons_append, ← List.append_assoc] at h
    obtain ⟨rfl, -⟩ := List.append_inj' h rfl
    rw [hbefore call (by simp)] at hfailed
    cases hfailed

/-- A checkout that stops at a call of the script follows it. -/
theorem follows_of_stop {request : ValidRequest} {plan : Plan request} {diverted : Bool}
    {transaction tracking : String} {id : OrderId} {events : List Event} {before : List Call}
    (call : Call) {failure : CallFailure} {error : PlacementError}
    (hscript : before ++ [call] <+: plan.script diverted transaction tracking)
    (hcalls : callsOf events = before ++ [⟨call.request, .error failure⟩])
    (hblame : call.request.blame? failure = some error)
    (hconsulted : consultations events =
      ((callsOf events).filterMap fun call ↦ call.request.charged?).map fun _ ↦ diverted) :
    Follows plan diverted transaction tracking id events (.error error) := by
  obtain ⟨hstep, hexplains⟩ := Request.explains_of_blame? hblame
  have hbefore : ∀ c ∈ before, c.succeeded = true := fun c hc ↦
    Plan.succeeded_of_mem_script (hscript.subset (List.mem_append_left _ hc))
  have hmem : ⟨call.request, .error failure⟩ ∈ callsOf events := by
    rw [hcalls]
    simp
  refine ⟨?_, ?_, hconsulted, ?_, ?_, ?_⟩
  · rw [hcalls]
    simpa using hscript.map Call.request
  · rw [hcalls, List.filter_append, List.filter_eq_self.mpr hbefore]
    exact (List.append_nil before).symm ▸ (List.prefix_append _ _).trans hscript
  · intro first other rest cause hother hanswer _
    obtain ⟨hrest, rfl⟩ :=
      eq_last_of_failed hbefore (hcalls.symm.trans hother) (succeeded_of_error hanswer)
    cases hanswer
    exact ⟨hrest, error, rfl, hstep, hexplains⟩
  · intro cause _ hall
    cases hall _ hmem
  · intro total _ hall
    have hne : call.request.step ≠ .emptyCart := by
      intro hempty
      have hbest := Request.exists_blame?_iff.mp ⟨error, hblame⟩
      rw [hempty] at hbest
      cases hbest
    cases hall _ hmem hne

/-- A checkout that asks all that it can without a total follows the script. -/
theorem follows_of_error {request : ValidRequest} {plan : Plan request} {diverted : Bool}
    {transaction tracking : String} {id : OrderId} {events : List Event} {cause : MoneyError}
    (htotal : plan.total? = .error cause) (hcalls : callsOf events = plan.pricing)
    (hconsulted : consultations events = []) :
    Follows plan diverted transaction tracking id events
      (.error (.invalidAmount .prepareTotal cause)) := by
  have hall : ∀ c ∈ callsOf events, c.succeeded = true := fun c hc ↦
    (Plan.of_mem_pricing (hcalls ▸ hc)).2
  refine ⟨?_, ?_, ?_, ?_, ?_, ?_⟩
  · exact ⟨[], by rw [Plan.script_of_error htotal, hcalls, List.append_nil]⟩
  · exact ⟨[], by rw [Plan.script_of_error htotal, List.filter_eq_self.mpr hall, hcalls,
      List.append_nil]⟩
  · rw [hconsulted, hcalls, Plan.filterMap_charged?_pricing]
    rfl
  · intro before call after failure hsplit hanswer _
    have hcall := hall call (hsplit ▸ List.mem_append_right _ List.mem_cons_self)
    rw [succeeded_of_error hanswer] at hcall
    cases hcall
  · intro other hother _
    cases htotal.symm.trans hother
    exact ⟨hcalls, rfl⟩
  · intro total hother
    cases htotal.symm.trans hother

/-- A checkout that asks all that is in the script follows it, whatever the last answer. -/
theorem follows_of_ok {request : ValidRequest} {plan : Plan request} {diverted : Bool}
    {transaction tracking : String} {id : OrderId} {events : List Event} {total : Money}
    {answer : Except CallFailure Unit} (htotal : plan.total? = .ok total)
    (hcalls : callsOf events = plan.pricing ++
      [⟨.charge total request.card diverted, .ok transaction⟩,
        ⟨.shipOrder request.address plan.cart.lines, .ok tracking⟩,
        ⟨.emptyCart request.user, answer⟩])
    (hconsulted : consultations events = [diverted]) :
    Follows plan diverted transaction tracking id events (.ok (plan.order id total tracking)) := by
  have hpricing : plan.pricing.filter Call.succeeded = plan.pricing :=
    List.filter_eq_self.mpr fun c hc ↦ (Plan.of_mem_pricing hc).2
  have hasked : (callsOf events).map Call.request =
      (plan.script diverted transaction tracking).map Call.request := by
    rw [hcalls, Plan.script_of_ok htotal]
    simp
  refine ⟨hasked ▸ List.prefix_rfl, ?_, ?_, ?_, ?_, ?_⟩
  · rw [Plan.script_of_ok htotal, hcalls, List.filter_append, hpricing]
    refine (List.prefix_append_right_inj _).mpr ?_
    cases answer with
    | ok => exact List.prefix_rfl
    | error failure => exact ⟨[⟨.emptyCart request.user, .ok ()⟩], rfl⟩
  · rw [hconsulted, hcalls, List.filterMap_append, Plan.filterMap_charged?_pricing]
    rfl
  · intro before call after failure hsplit hanswer hstep
    have hmem : call ∈ callsOf events := hsplit ▸ List.mem_append_right _ List.mem_cons_self
    rw [hcalls] at hmem
    have hfailed := succeeded_of_error hanswer
    rcases List.mem_append.mp hmem with hmem | hmem
    · rw [(Plan.of_mem_pricing hmem).2] at hfailed
      cases hfailed
    · simp only [List.mem_cons, List.not_mem_nil, or_false] at hmem
      rcases hmem with rfl | rfl | rfl
      · cases hfailed
      · cases hfailed
      · exact absurd rfl hstep
  · intro cause hother
    cases htotal.symm.trans hother
  · intro other hother _
    cases htotal.symm.trans hother
    exact ⟨hasked, rfl⟩

/-- Every way in which a checkout can go is sequenced. -/
theorem Conforms.isSequenced {id : OrderId} {request : OrderRequest} {events : List Event}
    {result : Except PlacementError Order} (h : Conforms id request events result) :
    IsSequenced id request events result := by
  cases h with
  | refused hvalid => exact .inl ⟨_, hvalid, rfl, rfl⟩
  | stopped plan hvalid hstops =>
      obtain ⟨before, call, failure, hstart, hcalls, hblame⟩ := calls_of_stopsAt hstops
      refine .inr ⟨_, plan, false, "", "", hvalid, ?_⟩
      refine follows_of_stop call (hstart.trans (List.prefix_append _ _)) hcalls hblame ?_
      rw [consultations_of_stopsAt hstops, List.filterMap_eq_nil_iff.mpr]
      · rfl
      · exact fun c hc ↦ Request.charged?_of_isInquiry (isInquiry_of_stopsAt hstops c hc)
  | unpayable plan hvalid htotal =>
      refine .inr ⟨_, plan, false, "", "", hvalid, ?_⟩
      exact follows_of_error htotal (callsOf_opening ..) (consultations_opening ..)
  | uncharged plan diverted failure hvalid htotal hblame =>
      refine .inr ⟨_, plan, diverted, "", "", hvalid, ?_⟩
      refine follows_of_stop ⟨_, .ok ""⟩ ?_ (callsOf_toCharge ..) hblame ?_
      · simp [Plan.script_of_ok htotal]
      · rw [callsOf_toCharge, consultations_toCharge, List.filterMap_append,
          Plan.filterMap_charged?_pricing]
        rfl
  | @unshipped valid total error plan diverted transaction failure hvalid htotal hblame =>
      have hcalls : callsOf (toShipment plan id total diverted transaction (.error failure) ++
          [chargedInVain id transaction]) =
          (plan.pricing ++ [⟨.charge total valid.card diverted, .ok transaction⟩]) ++
            [⟨.shipOrder valid.address plan.cart.lines, .error failure⟩] := by
        simp [chargedInVain, logged]
      refine .inr ⟨_, plan, diverted, transaction, "", hvalid, ?_⟩
      refine follows_of_stop ⟨_, .ok ""⟩ ?_ hcalls hblame ?_
      · simp [Plan.script_of_ok htotal]
      · rw [hcalls, consultations_append, consultations_toShipment, List.filterMap_append,
          List.filterMap_append, Plan.filterMap_charged?_pricing]
        rfl
  | placed plan diverted transaction tracking answer hvalid htotal =>
      refine .inr ⟨_, plan, diverted, transaction, tracking, hvalid, ?_⟩
      exact follows_of_ok htotal (callsOf_toEnd ..) (consultations_toEnd ..)

/-- However the collaborators answer, the calls of a checkout follow the script; and so do those of
every order that a shop places, where the faults of the shop decide whether charges are diverted. -/
theorem calls_follow_script :
    (∀ (id : OrderId) (request : OrderRequest) (events : List Event)
        (result : Except PlacementError Order),
      (placeOrder id request).Plays events result → IsSequenced id request events result) ∧
    (∀ (shop final : Shop) (caller : Caller) (abandonAt : Option Nat) (request : OrderRequest)
        (result : Except PlacementError Order),
      shop.place caller abandonAt request = (some result, final) →
        ∃ events, shop.Places caller abandonAt request events result final ∧
          IsSequenced shop.nextOrder request events result ∧
          ∀ diverted ∈ consultations events, diverted = shop.faults.divert) := by
  refine ⟨fun _ _ _ _ h ↦ (conforms h).isSequenced, ?_⟩
  intro shop final caller abandonAt request result h
  obtain ⟨events, hplaces⟩ := Shop.place_eq_some_iff.mp h
  refine ⟨events, hplaces, (conforms hplaces.1).isSequenced, ?_⟩
  obtain ⟨_, opened, _, _, _, hopened, hhosts, -⟩ := hplaces.exists_hosts
  rw [← hopened.faults_eq]
  exact hhosts.faults_eq.2

end Checkout

namespace Shop

/-- The demonstration shop places the order of its customer, and ends it at the charge when charges
are diverted. Both orders follow their scripts. -/
theorem demo_orders_follow_script :
    (∃ order final events,
      (Demo.start .standard 0 0).place .background none demoRequest = (some (.ok order), final) ∧
        Checkout.IsSequenced order.id demoRequest events (.ok order)) ∧
    ∃ error final events,
      { Demo.start .standard 0 0 with faults := ⟨true, 0⟩ }.place .background none demoRequest =
        (some (.error error), final) ∧ error.step = .chargePayment ∧
        Checkout.IsSequenced (Demo.start .standard 0 0).nextOrder demoRequest events
          (.error error) ∧
        ∀ diverted ∈ consultations events, diverted = true := by
  constructor
  · have hplaced : ((Demo.start .standard 0 0).place .background none demoRequest).1.any
        (fun result ↦ result.toOption.any fun order ↦
          order.id == (Demo.start .standard 0 0).nextOrder) = true := rfl
    obtain ⟨result, final, hplace⟩ :=
      (Demo.start .standard 0 0).exists_place .background demoRequest
    rw [hplace] at hplaced
    cases result with
    | error => cases hplaced
    | ok order =>
        obtain ⟨events, -, hsequenced, -⟩ :=
          Checkout.calls_follow_script.2 _ _ _ _ _ _ hplace
        exact ⟨order, final, events, hplace, eq_of_beq hplaced ▸ hsequenced⟩
  · have hfailed : ({ Demo.start .standard 0 0 with faults := ⟨true, 0⟩ }.place .background none
        demoRequest).1.map (Except.mapError PlacementError.step) =
        some (.error .chargePayment) := rfl
    obtain ⟨result, final, hplace⟩ :=
      { Demo.start .standard 0 0 with faults := ⟨true, 0⟩ }.exists_place .background demoRequest
    rw [hplace] at hfailed
    cases result with
    | ok => cases hfailed
    | error error =>
        obtain ⟨events, -, hsequenced, hdiverted⟩ :=
          Checkout.calls_follow_script.2 _ _ _ _ _ _ hplace
        have hstep : error.step = .chargePayment := Except.error.inj (Option.some.inj hfailed)
        exact ⟨error, final, events, hplace, hstep, hsequenced, hdiverted⟩

end Shop

end Storefront
