import Storefront.Proofs.Checkout.Completion
import Storefront.Proofs.Checkout.Conformance
import Storefront.Proofs.Shop.Stores
import Storefront.Shop.Demo

/-!
# What comes of an order

The placement of an order changes the stores as its result says. An order that fails before it is
shipped leaves no trace in them; one that cannot be shipped leaves one charge; one that is placed
leaves a charge of its total, a shipment of the cart, and no cart unless the cart could not be
emptied. A failed order is neither confirmed nor announced, however long one waits. The main theorem
is `place_settles`.
-/

namespace Storefront

/-- An inquiry changes nothing, whatever is answered. -/
theorem Collaborators.foldl_after_inquiries (c : Collaborators) {calls : List Call}
    (h : ∀ call ∈ calls, call.request.isInquiry = true) : calls.foldl after c = c := by
  induction calls with
  | nil => rfl
  | cons call rest ih =>
      obtain ⟨hcall, hrest⟩ := List.forall_mem_cons.mp h
      have hafter : c.after call = c := by
        obtain ⟨request, answer⟩ := call
        cases request with
        | getCart | getProduct | getQuote | convert => rfl
        | charge | shipOrder | emptyCart | confirm => cases hcall
      rw [List.foldl_cons, hafter, ih hrest]

/-- Nothing is changed before there is a total. -/
theorem Plan.foldl_after_pricing {request : ValidRequest} (plan : Plan request)
    (c : Collaborators) : plan.pricing.foldl Collaborators.after c = c :=
  c.foldl_after_inquiries fun _ ↦ isInquiry_of_mem_pricing

namespace Checkout

variable {request : ValidRequest} (plan : Plan request) (id : OrderId) (total : Money)
  (diverted : Bool)

/-- Nothing is sent by a plain event. -/
theorem isQuiet_of_isPlain {event : Event} (h : event.IsPlain) : event.IsQuiet := by
  match event with
  | .asked _ => exact h
  | .consulted _ => exact h
  | .noted (.completed ..) => exact h.elim
  | .noted (.setback _) => exact h.elim
  | .noted (.attribute ..) | .noted (.event ..) | .noted (.line _) | .noted (.progress ..) =>
      exact nofun

/-- A placed order starts like any other. -/
theorem exists_toEnd_eq (transaction tracking : String) (answer : Except CallFailure Unit) :
    ∃ rest, toEnd plan id total diverted transaction tracking answer = plan.opening id ++ rest := by
  unfold toEnd toShipment toCharge
  simp only [List.append_assoc]
  exact ⟨_, rfl⟩

/-- The error of an order that could not be shipped. -/
theorem shipping_error {address : Address} {lines : List CartLine} {failure : CallFailure}
    {error : PlacementError} (h : (Request.shipOrder address lines).blame? failure = some error) :
    (∃ cause, error = .shippingFailed cause) ∨ error = .cancelled .shipOrder ∨
      error = .deadlineExceeded .shipOrder := by
  cases h
  match failure with
  | .interrupted .cancelled => exact .inr (.inl rfl)
  | .interrupted .deadlineExceeded => exact .inr (.inr rfl)
  | .transport cause => exact .inl ⟨cause, rfl⟩

end Checkout

namespace Shop

variable {caller : Caller} {abandonAt : Option Nat} {shop final : Shop} {span last : Span}

/-- Nothing but time is needed for a call to be answered. -/
theorem exists_call (shop : Shop) (caller : Caller) (request : Request) :
    ∃ answer next, shop.call caller none request = (some answer, next) := by
  unfold call
  dsimp only
  rw [waitOrAbandon_none_eq]
  exact ⟨_, _, rfl⟩

/-- A dialogue that is not abandoned comes to its end. -/
theorem exists_converse {α : Type} (caller : Caller) (d : Dialogue α) (span : Span) (shop : Shop) :
    ∃ value last final, converse caller none d span shop = (some value, last, final) := by
  induction d generalizing span shop with
  | done value => exact ⟨value, span, shop, rfl⟩
  | ask request next ih =>
      obtain ⟨answer, after, hcall⟩ := shop.exists_call caller request
      unfold converse
      rw [hcall]
      exact ih answer span after
  | consult next ih => exact ih _ span shop
  | note n next ih => exact ih _ _

/-- An order whose placement is not abandoned comes to its result. -/
theorem exists_place (shop : Shop) (caller : Caller) (request : OrderRequest) :
    ∃ result final, shop.place caller none request = (some result, final) := by
  unfold place
  dsimp only
  obtain ⟨result, last, closing, h⟩ :=
    exists_converse (caller.withParent (shop.openOrder caller request).1.context)
      (Checkout.placeOrder shop.nextOrder request).run (shop.openOrder caller request).1
      (shop.openOrder caller request).2
  rw [h]
  exact ⟨result, _, rfl⟩

/-- The stores after an order was placed or not are those before it with the answers entered. -/
theorem Places.stores_eq {request : OrderRequest} {events : List Event}
    {result : Except PlacementError Order} (hscripted : shop.collaborators.scripted = .none)
    (h : shop.Places caller abandonAt request events result final) :
    final.collaborators.stores =
      (callsOf events).foldl Collaborators.after shop.collaborators.stores := by
  obtain ⟨_, opened, _, closing, _, hopened, hhosts, hclosing⟩ := h.exists_hosts
  rw [← hopened.collaborators_eq] at hscripted ⊢
  rw [hclosing.collaborators_eq]
  exact hhosts.stores_eq hscripted

/-- Only payments, shipments, and carts are changed by an order. -/
theorem Places.rest_eq {request : OrderRequest} {events : List Event}
    {result : Except PlacementError Order} (hscripted : shop.collaborators.scripted = .none)
    (h : shop.Places caller abandonAt request events result final) :
    final.collaborators.stores =
      { shop.collaborators.stores with
        payments := final.collaborators.payments
        shipping := final.collaborators.shipping
        carts := final.collaborators.carts } := by
  show final.collaborators.stores =
    { shop.collaborators.stores with
      payments := final.collaborators.stores.payments
      shipping := final.collaborators.stores.shipping
      carts := final.collaborators.stores.carts }
  rw [h.stores_eq hscripted]
  exact Collaborators.foldl_after_eq _ _

/-- An order that stays quiet sends only what tasks owe, now and when the background is at rest. -/
theorem Places.sends {request : OrderRequest} {events : List Event}
    {result : Except PlacementError Order} (hquiet : ∀ event ∈ events, event.IsQuiet)
    (h : shop.Places caller abandonAt request events result final) :
    ∀ later ∈ [final, final.drain.2],
      shop.collaborators.Sends (owedBy shop.tasks) later.collaborators (owedBy later.tasks) ∧
      (shop.tasks = [] → later.collaborators.mail.sent = shop.collaborators.mail.sent ∧
        later.collaborators.broker.messages = shop.collaborators.broker.messages) := by
  have hidle : ∀ later : Shop,
      shop.collaborators.Sends (owedBy shop.tasks) later.collaborators (owedBy later.tasks) →
      shop.tasks = [] → later.collaborators.mail.sent = shop.collaborators.mail.sent ∧
        later.collaborators.broker.messages = shop.collaborators.broker.messages := by
    intro later hsends htasks
    rw [htasks] at hsends
    exact hsends.eq_of_owed_zero
  have hfinal : shop.collaborators.Sends (owedBy shop.tasks) final.collaborators
      (owedBy final.tasks) := by
    obtain ⟨_, opened, _, closing, _, hopened, hhosts, hclosing⟩ := h.exists_hosts
    rw [← hopened.collaborators_eq, ← hopened.tasks_eq, hclosing.collaborators_eq,
      hclosing.tasks_eq]
    exact hhosts.sends hquiet
  have hdrain := final.drain_passes.sends
  rw [add_zero] at hdrain
  rintro later (_ | ⟨_, _ | ⟨_, ⟨⟩⟩⟩)
  · exact ⟨hfinal, hidle _ hfinal⟩
  · exact ⟨hfinal.trans hdrain, hidle _ (hfinal.trans hdrain)⟩

/-- The cart of a plan that a shop follows is the one that the shop has. -/
theorem Places.lines_of_opening {request : OrderRequest} {valid : ValidRequest} {plan : Plan valid}
    {id : OrderId} {rest : List Event} {result : Except PlacementError Order}
    (hscripted : shop.collaborators.scripted = .none)
    (h : shop.Places caller abandonAt request (plan.opening id ++ rest) result final) :
    plan.cart.lines = shop.collaborators.carts.lines valid.user := by
  obtain ⟨_, opened, _, _, _, hopened, hhosts, -⟩ := h.exists_hosts
  rw [← hopened.collaborators_eq] at hscripted ⊢
  unfold Plan.opening at hhosts
  rw [List.cons_append, List.cons_append] at hhosts
  cases hhosts with
  | noted hhosts =>
      cases hhosts with
      | asked hcall _ => exact lines_of_call hscripted hcall

/-- What the failure of an order leaves behind, now and when the background is at rest. -/
structure SettlesFailure (shop : Shop) (error : PlacementError) (final : Shop) : Prop where
  /-- An order that fails at any other step than the shipment leaves no trace. -/
  unchanged : error.step ≠ .shipOrder →
    final.collaborators.stores = shop.collaborators.stores
  /-- An order that is not shipped leaves one charge and nothing else. -/
  charged : error.step = .shipOrder →
    ((∃ cause, error = .shippingFailed cause) ∨ error = .cancelled .shipOrder ∨
      error = .deadlineExceeded .shipOrder) ∧
    ∃ name amount, final.collaborators.stores =
      { shop.collaborators.stores with
        payments := shop.collaborators.payments.taken name amount }
  /-- Nothing is confirmed or announced that was not owed before. -/
  silent : ∀ later ∈ [final, final.drain.2],
    shop.collaborators.Sends (owedBy shop.tasks) later.collaborators (owedBy later.tasks) ∧
    (shop.tasks = [] → later.collaborators.mail.sent = shop.collaborators.mail.sent ∧
      later.collaborators.broker.messages = shop.collaborators.broker.messages)

/-- What a placed order leaves behind, given what happened while it was placed. -/
structure SettlesOrder (shop : Shop) (request : ValidRequest) (events : List Event) (order : Order)
    (final : Shop) : Prop where
  /-- The order goes where the request says. -/
  address : order.shippingAddress = request.address
  /-- There is one more charge, of the total. -/
  charge : ∃ name, final.collaborators.payments =
    shop.collaborators.payments.taken name order.totalCost
  /-- There is one more shipment, of the cart of the user. -/
  shipment : final.collaborators.shipping = shop.collaborators.shipping.accepted
    ⟨order.trackingId, order.shippingAddress, shop.collaborators.carts.lines request.user⟩
  /-- The cart of the user is gone, unless it could not be emptied. -/
  cart :
    ⟨.emptyCart request.user, .ok ()⟩ ∈ callsOf events ∧
      final.collaborators.carts.contents.get? request.user.text = none ∨
    (∃ failure, ⟨.emptyCart request.user, .error failure⟩ ∈ callsOf events) ∧
      final.collaborators.carts = shop.collaborators.carts
  /-- The carts of all others stay as they are. -/
  others : ∀ other, other ≠ request.user →
    final.collaborators.carts.contents.get? other.text =
      shop.collaborators.carts.contents.get? other.text
  /-- Nothing else changes. -/
  rest : final.collaborators.stores =
    { shop.collaborators.stores with
      payments := final.collaborators.payments
      shipping := final.collaborators.shipping
      carts := final.collaborators.carts }

/-- An order that fails with no more than inquiries leaves no trace. -/
theorem settlesFailure_of_unchanged {request : OrderRequest} {events : List Event}
    {error : PlacementError} (hstep : error.step ≠ .shipOrder)
    (hquiet : ∀ event ∈ events, event.IsQuiet)
    (hcalls : (callsOf events).foldl Collaborators.after shop.collaborators.stores =
      shop.collaborators.stores)
    (hscripted : shop.collaborators.scripted = .none)
    (h : shop.Places caller abandonAt request events (.error error) final) :
    SettlesFailure shop error final where
  unchanged _ := (h.stores_eq hscripted).trans hcalls
  charged hship := absurd hship hstep
  silent := h.sends hquiet

/-- However an order fails, it settles as a failure. -/
theorem Places.settlesFailure {request : OrderRequest} {events : List Event}
    {error : PlacementError} (hscripted : shop.collaborators.scripted = .none)
    (h : shop.Places caller abandonAt request events (.error error) final) :
    SettlesFailure shop error final := by
  have hconforms := Checkout.conforms h.1
  have hquiet : ∀ event ∈ events, event.IsQuiet := fun event hevent ↦
    Checkout.isQuiet_of_isPlain (hconforms.isPlain event hevent)
  generalize hresult : (.error error : Except PlacementError Order) = result at hconforms
  cases hconforms with
  | refused hvalid =>
      cases hresult
      exact settlesFailure_of_unchanged nofun hquiet rfl hscripted h
  | stopped plan hvalid hstops =>
      cases hresult
      obtain ⟨before, call, failure, hstart, -, hblame⟩ := Checkout.calls_of_stopsAt hstops
      refine settlesFailure_of_unchanged ?_ hquiet ?_ hscripted h
      · rw [(Request.explains_of_blame? hblame).1]
        have hmem : call ∈ plan.pricing := hstart.subset (by simp)
        exact Request.step_ne_of_isInquiry (by decide) (Plan.isInquiry_of_mem_pricing hmem)
      · exact Collaborators.foldl_after_inquiries _ (Checkout.isInquiry_of_stopsAt hstops)
  | unpayable plan hvalid htotal =>
      cases hresult
      refine settlesFailure_of_unchanged nofun hquiet ?_ hscripted h
      rw [Checkout.callsOf_opening]
      exact plan.foldl_after_pricing _
  -- A charge that fails or is interrupted has not been taken.
  | uncharged plan diverted failure hvalid htotal hblame =>
      cases hresult
      refine settlesFailure_of_unchanged ?_ hquiet ?_ hscripted h
      · rw [(Request.explains_of_blame? hblame).1]
        nofun
      · rw [Checkout.callsOf_toCharge, List.foldl_append, plan.foldl_after_pricing,
          List.foldl_cons, Collaborators.after_error, List.foldl_nil]
  | @unshipped valid total error plan diverted transaction failure hvalid htotal hblame =>
      cases hresult
      refine ⟨fun hstep ↦ ?_, fun _ ↦ ⟨Checkout.shipping_error hblame, transaction, total, ?_⟩,
        h.sends hquiet⟩
      · exact absurd (Request.explains_of_blame? hblame).1 hstep
      · rw [h.stores_eq hscripted, callsOf_append, Checkout.callsOf_toShipment,
          List.append_assoc, List.foldl_append, plan.foldl_after_pricing]
        rfl
  | placed => cases hresult

/-- An order that is placed settles as one. -/
theorem Places.settlesOrder {request : OrderRequest} {events : List Event} {order : Order}
    (hscripted : shop.collaborators.scripted = .none)
    (h : shop.Places caller abandonAt request events (.ok order) final) :
    ∃ valid, request.validate = .ok valid ∧ SettlesOrder shop valid events order final := by
  have hconforms := Checkout.conforms h.1
  generalize hresult : (.ok order : Except PlacementError Order) = result at hconforms
  cases hconforms with
  | refused | stopped | unpayable | uncharged | unshipped => cases hresult
  | @placed valid total plan diverted transaction tracking answer hvalid htotal =>
      cases hresult
      -- The carts do not change until the cart is emptied, so the shipment is that of the start.
      have hlines : plan.cart.lines = shop.collaborators.carts.lines valid.user := by
        obtain ⟨rest, hrest⟩ := Checkout.exists_toEnd_eq plan shop.nextOrder total diverted
          transaction tracking answer
        rw [hrest] at h
        exact h.lines_of_opening hscripted
      have hstores := h.stores_eq hscripted
      rw [Checkout.callsOf_toEnd, List.foldl_append, plan.foldl_after_pricing] at hstores
      refine ⟨valid, hvalid, ?_⟩
      cases answer with
      | ok =>
          have hcarts : final.collaborators.carts = shop.collaborators.carts.clear valid.user :=
            (congrArg Collaborators.carts hstores :)
          have herase := shop.collaborators.carts.contents.get?_erase valid.user.text
          refine ⟨rfl, ⟨transaction, (congrArg Collaborators.payments hstores :)⟩, ?_,
            .inl ⟨?_, ?_⟩, fun other hother ↦ ?_, h.rest_eq hscripted⟩
          · rw [← hlines]
            exact (congrArg Collaborators.shipping hstores :)
          · rw [Checkout.callsOf_toEnd]
            simp
          · rw [hcarts]
            exact (herase _).trans (if_pos rfl)
          · rw [hcarts]
            exact (herase _).trans (if_neg fun h ↦ hother (congrArg UserId.mk h.symm))
      | error failure =>
          have hcarts : final.collaborators.carts = shop.collaborators.carts :=
            (congrArg Collaborators.carts hstores :)
          refine ⟨rfl, ⟨transaction, (congrArg Collaborators.payments hstores :)⟩, ?_,
            .inr ⟨⟨failure, ?_⟩, hcarts⟩, fun other _ ↦ by rw [hcarts], h.rest_eq hscripted⟩
          · rw [← hlines]
            exact (congrArg Collaborators.shipping hstores :)
          · rw [Checkout.callsOf_toEnd]
            simp

/-- A placement that is not abandoned comes to a result, and whatever it is, the stores of the shop
settle as the result says. -/
theorem place_settles (hscripted : shop.collaborators.scripted = .none) (caller : Caller)
    (request : OrderRequest) :
    (∃ result final, shop.place caller none request = (some result, final)) ∧
    ∀ abandonAt result final, shop.place caller abandonAt request = (some result, final) →
      ∃ events, shop.Places caller abandonAt request events result final ∧
        (∀ error, result = .error error → SettlesFailure shop error final) ∧
        ∀ order, result = .ok order → ∃ valid, request.validate = .ok valid ∧
          SettlesOrder shop valid events order final := by
  refine ⟨shop.exists_place caller request, fun abandonAt result final h ↦ ?_⟩
  obtain ⟨events, hplaces⟩ := place_eq_some_iff.mp h
  refine ⟨events, hplaces, ?_, ?_⟩
  · rintro error rfl
    exact hplaces.settlesFailure hscripted
  · rintro order rfl
    exact hplaces.settlesOrder hscripted

/-- An order for the full cart of the demonstration shop. -/
def demoRequest : OrderRequest where
  user := Demo.customer
  currency := "USD"
  address := some ⟨"1 Main Street", "Springfield", "", "US", "12345"⟩
  email := ""
  card := some ⟨"4111", 123, 2030, 1⟩

/-- The demonstration shop places that order, and settles. -/
theorem demo_place_settles : ∃ order final events valid,
    (Demo.start .standard 0 0).place .background none demoRequest = (some (.ok order), final) ∧
      demoRequest.validate = .ok valid ∧
      SettlesOrder (Demo.start .standard 0 0) valid events order final := by
  have hscripted : (Demo.start .standard 0 0).collaborators.scripted = .none := rfl
  have hplaced : ((Demo.start .standard 0 0).place .background none demoRequest).1.any
      Except.isOk = true := rfl
  obtain ⟨⟨result, final, h⟩, hsettles⟩ := place_settles hscripted .background demoRequest
  rw [h] at hplaced
  cases result with
  | error => cases hplaced
  | ok order =>
      obtain ⟨events, -, -, hok⟩ := hsettles none (.ok order) final h
      obtain ⟨valid, hvalid, hsettled⟩ := hok order rfl
      exact ⟨order, final, events, valid, h, hvalid, hsettled⟩

end Shop

end Storefront
