import Storefront.Http.Router
import Storefront.Json.Lookup
import Storefront.Proofs.Checkout.Failure
import Storefront.Proofs.Order.RoundTrip
import Storefront.Proofs.Shop.Outcome

/-!
# What an answer tells about an order

From the answer to an order alone a customer knows what has been done: created means one charge and
one shipment, and the body is the order; any other answer names the error and, if the placement had
begun, the step, and a charge was taken exactly if that step is the shipment. The main theorem is
`answer_tells`. A customer cannot cancel and sets no deadline, so no answer is about a timeout.
-/

namespace Storefront

namespace Shop

variable {caller : Caller} {abandonAt : Option Nat} {shop final next : Shop} {span last : Span}

/-- A call without limits is not interrupted. -/
theorem isInterrupted_of_call {request : Request} {answer : Except CallFailure request.Accepted}
    (hlimits : caller.limits = .none)
    (h : shop.call caller abandonAt request = (some answer, next)) :
    Call.isInterrupted ⟨request, answer⟩ = false := by
  have hsent := shop.interruption_send hlimits request
  have hreplied : ∀ waiting : Shop, Call.isInterrupted
      ⟨request, (waiting.settle request (shop.send caller request).1).1⟩ = false := by
    intro waiting
    obtain ⟨span, hsettle⟩ := waiting.exists_settle_eq request (shop.send caller request).1
    rw [hsettle, answerUnless, hsent]
    show Call.isInterrupted ⟨request, (request.accept _).mapError .transport⟩ = false
    generalize request.accept _ = accepted
    cases accepted <;> rfl
  unfold call at h
  dsimp only at h
  split at h
  · cases h
    exact hreplied _
  · cases h

/-- No call of a conversation without limits is interrupted. -/
theorem Hosts.isInterrupted_eq_false {events : List Event} (hlimits : caller.limits = .none)
    (h : Hosts caller abandonAt span shop events last final) :
    ∀ call ∈ callsOf events, call.isInterrupted = false := by
  induction h with
  | done => simp
  | asked hcall _ ih =>
      rw [callsOf_asked, List.forall_mem_cons]
      exact ⟨isInterrupted_of_call hlimits hcall, ih⟩
  | consulted _ ih => exact ih
  | noted _ ih => exact ih

/-- Without limits no order fails by an interruption. -/
theorem Places.isInterruption_eq_false {request : OrderRequest} {events : List Event}
    {error : PlacementError} (hlimits : caller.limits = .none)
    (h : shop.Places caller abandonAt request events (.error error) final) :
    error.isInterruption = false := by
  obtain ⟨hplays, last, closing, hhosts, -⟩ := h
  have hwithin : (caller.withParent (shop.openOrder caller request).1.context).limits = .none :=
    hlimits
  have hcalls := hhosts.isInterrupted_eq_false hwithin
  exact (Checkout.conforms hplays).ends.isInterruption_eq_false hcalls

/-- Where nothing is asked, nothing is answered, sent, or recorded. -/
structure IsUntouched (shop next : Shop) : Prop where
  collaborators_eq : next.collaborators = shop.collaborators
  calls_eq : next.calls = shop.calls
  tasks_eq : next.tasks = shop.tasks

/-- Beginning an order touches nothing. -/
theorem openOrder_isUntouched (shop : Shop) (caller : Caller) (request : OrderRequest) :
    shop.IsUntouched (shop.openOrder caller request).2 :=
  ⟨rfl, rfl, rfl⟩

/-- Ending an order touches nothing. -/
theorem closeOrder_isUntouched (shop : Shop) (span : Span)
    (result : Except PlacementError Order) : shop.IsUntouched (shop.closeOrder span result) := by
  cases result <;> exact ⟨rfl, rfl, rfl⟩

/-- An invalid request for an order touches nothing. -/
theorem Places.isUntouched {request : OrderRequest} {events : List Event} {defect : RequestDefect}
    (h : shop.Places caller abandonAt request events (.error (.invalidRequest defect)) final) :
    callsOf events = [] ∧ shop.IsUntouched final := by
  obtain ⟨hplays, last, closing, hhosts, rfl⟩ := h
  have hevents : events = [] := (Checkout.conforms hplays).ends.events_eq_nil
  have hopened := shop.openOrder_isUntouched caller request
  have hclosed := closing.closeOrder_isUntouched last (.error (.invalidRequest defect))
  generalize shop.openOrder caller request = opened at hhosts hopened
  rw [hevents] at hhosts ⊢
  cases hhosts
  exact ⟨rfl, hclosed.1.trans hopened.1, hclosed.2.trans hopened.2, hclosed.3.trans hopened.3⟩

end Shop

/-- The step at which an order failed, if its placement had begun. -/
def ServiceError.step? : ServiceError → Option Step
  | .badRequest _ => none
  | .placement error => some error.step

namespace Http

variable {shop next : Shop} {ask : Ask}

/-- Payments with one more charge. -/
def Charged (shop next : Shop) : Prop :=
  ∃ name amount, next.collaborators.payments = shop.collaborators.payments.taken name amount

/-- Shipping with one more shipment. -/
def Shipped (shop next : Shop) : Prop :=
  ∃ shipment, next.collaborators.shipping = shop.collaborators.shipping.accepted shipment

/-- `Refuses shop ask error calls final` says why the shop does not place the order of a message,
what it has asked of its collaborators, and where that leaves the shop. -/
inductive Refuses (shop : Shop) (ask : Ask) : ServiceError → List Call → Shop → Prop where
  /-- The message cannot be read. -/
  | unread {message} :
      readOrder ask = .error message → Refuses shop ask (.badRequest message) [] shop
  /-- The placement fails at a step. -/
  | unplaced {request events error final} :
      readOrder ask = .ok request →
      shop.Places ⟨extract ask.fields, .none⟩ none request events (.error error) final →
      Checkout.FailsAt request events error.step →
      Refuses shop ask (.placement error) (callsOf events) final

/-- What the answer to an order tells of the shop before and after. -/
structure Tells (shop : Shop) (ask : Ask) (answer : Answer) (next : Shop) : Prop where
  /-- The order is created exactly if there is one more charge and one more shipment. -/
  created_iff : answer.status = 201 ↔ Charged shop next ∧ Shipped shop next
  /-- The body is then the order: its total was charged, and its tracking is the shipment's. -/
  order : answer.status = 201 → ∃ order,
    Decoder.document Order.decoder answer.body = .ok order ∧
    (∃ name, next.collaborators.payments =
      shop.collaborators.payments.taken name order.totalCost) ∧
    ∃ shipment, shipment.name = order.trackingId ∧
      next.collaborators.shipping = shop.collaborators.shipping.accepted shipment
  /-- Any other answer is about a bad request, a payment, an amount, or a collaborator, and its body
  is an object with the wording of the error and the step at which the order failed. -/
  refused : answer.status ≠ 201 → answer.status ∈ [400, 402, 500, 502] ∧
    ∃ error calls final, Refuses shop ask error calls final ∧
      (next.collaborators = final.collaborators ∧ next.calls = final.calls) ∧
      (Document.scan answer.body).trailing = false ∧
      (Document.scan answer.body).value.isObject = true ∧
      (Document.scan answer.body).value.text? "error" = some error.message ∧
      (Document.scan answer.body).value.text? "step" = error.step?.map Step.name ∧
      (answer.status = 400 → calls = [])
  /-- A charge was then taken exactly if the step is the shipment. -/
  charged_iff : answer.status ≠ 201 →
    (Charged shop next ↔
      (Document.scan answer.body).value.text? "step" = some Step.shipOrder.name) ∧
    (¬Charged shop next → next.collaborators.payments = shop.collaborators.payments)
  /-- Nothing was asked and nothing has changed where the request is bad. -/
  untouched : answer.status = 400 → shop.IsUntouched next
  /-- Nothing was charged where a payment is asked for. -/
  unpaid : answer.status = 402 → next.collaborators.payments = shop.collaborators.payments

/-- A charge that is taken is counted. -/
theorem taken_ne (p : Payments) (name : String) (amount : Money) : p ≠ p.taken name amount := by
  intro h
  have htotal := congrArg (fun p ↦ p.charges.total) h
  exact absurd htotal (Nat.ne_of_lt (Nat.lt_succ_self _))

/-- A shipment that is accepted is counted. -/
theorem accepted_ne (s : Shipping) (shipment : Shipment) : s ≠ s.accepted shipment := by
  intro h
  have htotal := congrArg (fun s ↦ s.shipments.total) h
  exact absurd htotal (Nat.ne_of_lt (Nat.lt_succ_self _))

/-- The body of an error is read as the error. -/
theorem scan_body (error : ServiceError) :
    (Document.scan error.body.text).trailing = false ∧
    (Document.scan error.body.text).value.isObject = true ∧
    (Document.scan error.body.text).value.text? "error" = some error.message ∧
    (Document.scan error.body.text).value.text? "step" = error.step?.map Step.name := by
  have hfits : error.body.Fits := by
    cases error with
    | badRequest => exact ⟨trivial, trivial⟩
    | placement => exact ⟨trivial, trivial, trivial⟩
  rw [Document.scan_text hfits]
  cases error <;> exact ⟨rfl, rfl, rfl, rfl⟩

/-- The status of an order that failed without an interruption. -/
theorem status_placement {error : PlacementError} (h : error.isInterruption = false) :
    (ServiceError.placement error).status ∈ [400, 402, 500, 502] ∧
    ((ServiceError.placement error).status = 400 → ∃ defect, error = .invalidRequest defect) ∧
    ((ServiceError.placement error).status = 402 → ∃ cause, error = .paymentFailed cause) := by
  cases error with
  | cancelled | deadlineExceeded => cases h
  | invalidRequest defect => exact ⟨by simp [ServiceError.status], fun _ ↦ ⟨defect, rfl⟩, nofun⟩
  | paymentFailed cause => exact ⟨by simp [ServiceError.status], nofun, fun _ ↦ ⟨cause, rfl⟩⟩
  | _ => exact ⟨by simp [ServiceError.status], nofun, nofun⟩

/-- The name of a step is that of the shipment only for the shipment. -/
theorem map_name_eq_shipOrder (step? : Option Step) :
    step?.map Step.name = some Step.shipOrder.name ↔ step? = some .shipOrder := by
  rcases step? with _ | step
  · simp
  · cases step <;> simp [Step.name]

/-- A refusal changes nothing but the log. -/
theorem refusal_keeps (shop : Shop) (error : ServiceError) :
    shop.IsUntouched (refusal shop error).2 := by
  unfold refusal
  dsimp only
  split <;> exact ⟨rfl, rfl, rfl⟩

/-- The answer of a refusal tells what the refusal is about. -/
theorem tells_refusal {error : ServiceError} {calls : List Call} {final : Shop}
    (hrefuses : Refuses shop ask error calls final)
    (hstatus : error.status ∈ [400, 402, 500, 502])
    (hcharged : error.step? = some .shipOrder → Charged shop final)
    (huncharged : error.step? ≠ some .shipOrder →
      final.collaborators.payments = shop.collaborators.payments)
    (hshipping : final.collaborators.shipping = shop.collaborators.shipping)
    (huntouched : error.status = 400 → calls = [] ∧ shop.IsUntouched final)
    (hunpaid : error.status = 402 → error.step? ≠ some .shipOrder) :
    Tells shop ask (refusal final error).1 (refusal final error).2 := by
  obtain ⟨hcollaborators, hcalls, htasks⟩ := refusal_keeps final error
  obtain ⟨htrailing, hobject, hmessage, hstep⟩ := scan_body error
  have hne : error.status ≠ 201 := by
    rintro h
    rw [h] at hstatus
    simp at hstatus
  have hpayments : Charged shop (refusal final error).2 ↔ Charged shop final := by
    rw [Charged, hcollaborators, Charged]
  have hiff : Charged shop final ↔ error.step? = some .shipOrder := by
    refine ⟨fun h ↦ ?_, hcharged⟩
    obtain ⟨name, amount, htaken⟩ := h
    by_contra hother
    exact taken_ne _ name amount ((huncharged hother).symm.trans htaken)
  refine ⟨⟨fun h ↦ absurd h hne, ?_⟩, fun h ↦ absurd h hne, fun _ ↦ ⟨hstatus, error, calls, final,
    hrefuses, ⟨hcollaborators, hcalls⟩, htrailing, hobject, hmessage, hstep, fun h ↦
      (huntouched h).1⟩, fun _ ↦ ⟨?_, ?_⟩, fun h ↦ ?_, fun h ↦ ?_⟩
  · rintro ⟨-, shipment, hshipment⟩
    rw [hcollaborators, hshipping] at hshipment
    exact absurd hshipment (accepted_ne _ shipment)
  · rw [hpayments, hiff]
    show _ ↔ (Document.scan error.body.text).value.text? "step" = _
    rw [hstep, map_name_eq_shipOrder]
  · rw [hpayments, hiff, hcollaborators]
    exact huncharged
  · obtain ⟨-, hfinal⟩ := huntouched h
    exact ⟨hcollaborators.trans hfinal.1, hcalls.trans hfinal.2, htasks.trans hfinal.3⟩
  · rw [hcollaborators]
    exact huncharged (hunpaid h)

/-- An order that fails is refused as it should be. -/
theorem tells_of_error {request : OrderRequest} {events : List Event} {error : PlacementError}
    {final : Shop} (hscripted : shop.collaborators.scripted = .none)
    (hread : readOrder ask = .ok request)
    (h : shop.Places ⟨extract ask.fields, .none⟩ none request events (.error error) final) :
    Tells shop ask (refusal final (.placement error)).1 (refusal final (.placement error)).2 := by
  have hsettles := h.settlesFailure hscripted
  obtain ⟨hstatus, hinvalid, hpayment⟩ := status_placement (h.isInterruption_eq_false rfl)
  have hfails := (Checkout.conforms h.1).ends.failsAt
  have hstep : ∀ step, (ServiceError.placement error).step? = some step ↔ error.step = step :=
    fun _ ↦ Option.some_inj
  refine tells_refusal (.unplaced hread h hfails) hstatus (fun hship ↦ ?_) (fun hother ↦ ?_) ?_
    (fun h400 ↦ ?_) (fun h402 ↦ ?_)
  · obtain ⟨-, name, amount, hstores⟩ := hsettles.charged ((hstep _).mp hship)
    exact ⟨name, amount, (congrArg Collaborators.payments hstores :)⟩
  · have hstores := hsettles.unchanged fun hship ↦ hother ((hstep _).mpr hship)
    exact (congrArg Collaborators.payments hstores :)
  · by_cases hship : error.step = .shipOrder
    · obtain ⟨-, name, amount, hstores⟩ := hsettles.charged hship
      exact (congrArg Collaborators.shipping hstores :)
    · exact (congrArg Collaborators.shipping (hsettles.unchanged hship) :)
  · obtain ⟨defect, rfl⟩ := hinvalid h400
    exact h.isUntouched
  · obtain ⟨cause, rfl⟩ := hpayment h402
    nofun

/-- An order that is placed is created. -/
theorem tells_of_ok {request : OrderRequest} {events : List Event} {order : Order} {final : Shop}
    (hscripted : shop.collaborators.scripted = .none)
    (h : shop.Places ⟨extract ask.fields, .none⟩ none request events (.ok order) final)
    (hnext : next.collaborators = final.collaborators) :
    Tells shop ask (jsonAnswer 201 order.toJson) next := by
  obtain ⟨valid, -, hsettles⟩ := h.settlesOrder hscripted
  obtain ⟨name, hcharge⟩ := hsettles.charge
  have hshipment := hsettles.shipment
  rw [← hnext] at hcharge hshipment
  exact
    { created_iff := ⟨fun _ ↦ ⟨⟨name, _, hcharge⟩, _, hshipment⟩, fun _ ↦ rfl⟩
      order := fun _ ↦ ⟨order, order.document_text, ⟨name, hcharge⟩, _, rfl, hshipment⟩
      refused := fun h ↦ absurd rfl h
      charged_iff := fun h ↦ absurd rfl h
      untouched := nofun
      unpaid := nofun }

/-- However it goes, the answer tells. -/
theorem tells_placeOrder (hscripted : shop.collaborators.scripted = .none) (ask : Ask) :
    Tells shop ask (placeOrder shop ask).1 (placeOrder shop ask).2 := by
  unfold placeOrder
  cases hread : readOrder ask with
  | error message =>
      refine tells_refusal (.unread hread) (by simp [ServiceError.status]) nofun (fun _ ↦ rfl) rfl
        (fun _ ↦ ⟨rfl, rfl, rfl, rfl⟩) nofun
  | ok request =>
      -- The placement is neither abandoned nor left unanswered, so there is a result.
      obtain ⟨result, final, hplace⟩ := shop.exists_place ⟨extract ask.fields, .none⟩ request
      obtain ⟨events, hplaces⟩ := Shop.place_eq_some_iff.mp hplace
      dsimp only
      rw [hplace]
      cases result with
      | error error => exact tells_of_error hscripted hread hplaces
      | ok order => exact tells_of_ok hscripted hplaces rfl

/-- What is sent by `POST /orders` is an order. -/
theorem answer_eq_placeOrder (shop : Shop) {ask : Ask} (hmethod : ask.method = "POST")
    (htarget : targetPath ask.target = "/orders") :
    answer shop ask = (shared (placeOrder shop ask).1, (placeOrder shop ask).2) := by
  simp [answer, hmethod, htarget, methods?, handle]

/-- The answer to an order that is sent by `POST /orders` tells what has been done. -/
theorem answer_tells (shop : Shop) (ask : Ask) (hscripted : shop.collaborators.scripted = .none)
    (hmethod : ask.method = "POST") (htarget : targetPath ask.target = "/orders") :
    Tells shop ask (answer shop ask).1 (answer shop ask).2 := by
  rw [answer_eq_placeOrder shop hmethod htarget]
  -- The field for other sites changes neither the status nor the body.
  obtain ⟨hcreated, horder, hrefused, hcharged, huntouched, hunpaid⟩ :=
    tells_placeOrder hscripted ask
  exact ⟨hcreated, horder, hrefused, hcharged, huntouched, hunpaid⟩

/-- The message of a customer who asks for an order. -/
def orderAsk (request : OrderRequest) : Ask :=
  ⟨"POST", "/orders", .ofList [("content-type", Text.utf8 "application/json")],
    request.toJson.text⟩

/-- A request that is not too long is read from its message. -/
theorem readOrder_orderAsk (request : OrderRequest)
    (h : (request.toJson.render.flatMap String.utf8EncodeChar).length ≤ maxBody) :
    readOrder (orderAsk request) = .ok request := by
  have htype : ((orderAsk request).fields.get? "content-type").any MediaType.isJson = true := rfl
  have hbytes : (orderAsk request).body.bytes = Text.utf8 request.toJson.text := by
    rw [orderAsk]
  have hlength : (Text.utf8 request.toJson.text).length ≤ maxBody := by
    rwa [Text.utf8, Json.text, String.toList_ofList]
  simp only [readOrder, htype, hbytes, if_neg (Nat.not_lt.mpr hlength), request.bytes_text]
  rfl

/-- The demonstration shop creates an order for its full cart, and its answer tells so. -/
theorem demo_answer_tells :
    (answer (Shop.Demo.start .standard 0 0) (orderAsk Shop.demoRequest)).1.status = 201 ∧
      Tells (Shop.Demo.start .standard 0 0) (orderAsk Shop.demoRequest)
        (answer (Shop.Demo.start .standard 0 0) (orderAsk Shop.demoRequest)).1
        (answer (Shop.Demo.start .standard 0 0) (orderAsk Shop.demoRequest)).2 := by
  refine ⟨?_, answer_tells (Shop.Demo.start .standard 0 0) (orderAsk Shop.demoRequest) rfl rfl rfl⟩
  have hread := readOrder_orderAsk Shop.demoRequest (by decide +kernel)
  have hplaced : ((Shop.Demo.start .standard 0 0).place
      ⟨extract (orderAsk Shop.demoRequest).fields, .none⟩ none
        Shop.demoRequest).1.any Except.isOk = true := rfl
  rw [answer_eq_placeOrder (Shop.Demo.start .standard 0 0) rfl rfl, shared, placeOrder, hread]
  dsimp only
  generalize (Shop.Demo.start .standard 0 0).place
    ⟨extract (orderAsk Shop.demoRequest).fields, .none⟩ none Shop.demoRequest = placed
    at hplaced ⊢
  obtain ⟨_ | _ | order, next⟩ := placed
  · cases hplaced
  · cases hplaced
  · rfl

end Http

end Storefront
