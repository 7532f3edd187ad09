import Storefront.Proofs.Checkout.Calls

/-!
# When an order is complete

A checkout declares an order complete exactly if it ends with that order, and once; it does so with
the address of the request, free of blanks at its ends, `Conforms.completionsOf_eq`. Before that it
neither asks for a confirmation nor notes the failure of a step, except that a cart could not be
emptied, `Conforms.isOrderly`.
-/

namespace Storefront

namespace Event

/-- The order that is complete and the address to which it is to be confirmed. -/
def completion? : Event → Option (Order × String)
  | noted (.completed order email) => some (order, email)
  | _ => none

/-- Nothing is left to the background, and no failure of a step is noted. -/
def IsPlain : Event → Prop
  | asked call => call.request.step ≠ .sendConfirmation
  | noted (.completed ..) | noted (.setback _) => False
  | consulted _ | noted _ => True

/-- What is asked is needed for the order, and no failure is noted but that of emptying a cart. -/
def IsOrderly : Event → Prop
  | asked call => call.request.step ≠ .sendConfirmation
  | noted (.setback error) => error.step = .emptyCart
  | consulted _ | noted _ => True

/-- Plain events are orderly. -/
theorem IsPlain.isOrderly {event : Event} (h : event.IsPlain) : event.IsOrderly := by
  match event with
  | asked _ => exact h
  | noted (.setback _) => exact h.elim
  | noted (.completed ..) => exact h.elim
  | consulted _ => exact h
  | noted (.attribute ..) | noted (.event ..) | noted (.line _) | noted (.progress ..) => exact h

/-- No order is complete by a plain event. -/
theorem IsPlain.completion?_eq {event : Event} (h : event.IsPlain) : event.completion? = none := by
  match event with
  | asked _ => rfl
  | noted (.setback _) => rfl
  | noted (.completed ..) => exact h.elim
  | consulted _ => rfl
  | noted (.attribute ..) | noted (.event ..) | noted (.line _) | noted (.progress ..) => rfl

end Event

/-- The orders that are complete, in order. -/
def completionsOf (events : List Event) : List (Order × String) :=
  events.filterMap Event.completion?

namespace Checkout

variable {request : ValidRequest} (plan : Plan request) (id : OrderId) (total : Money)
  (diverted : Bool)

/-- Everything is plain before the total is formed. -/
theorem isPlain_opening : ∀ event ∈ plan.opening id, event.IsPlain := by
  have hinquiries : ∀ event ∈ plan.inquiries.map Event.asked, event.IsPlain := by
    intro event hevent
    obtain ⟨call, hcall, rfl⟩ := List.mem_map.mp hevent
    have hinquiry := Plan.isInquiry_of_mem_pricing (List.mem_cons_of_mem _ hcall)
    exact Request.step_ne_of_isInquiry (by decide) hinquiry
  unfold Plan.opening
  simp only [List.forall_mem_cons]
  exact ⟨trivial, nofun, trivial, hinquiries⟩

/-- Everything is plain where a plain script stops. -/
theorem isPlain_of_stopsAt {script events : List Event} {error : PlacementError}
    (hscript : ∀ event ∈ script, event.IsPlain) (h : StopsAt script events error) :
    ∀ event ∈ events, event.IsPlain := by
  obtain ⟨before, call, after, failure, rfl, rfl, -⟩ := h
  rw [List.forall_mem_append, List.forall_mem_cons] at hscript
  rw [List.forall_mem_append, List.forall_mem_singleton]
  exact ⟨hscript.1, hscript.2.1⟩

/-- Everything is plain up to the charge. -/
theorem isPlain_toCharge (answer : Except CallFailure String) :
    ∀ event ∈ toCharge plan id total diverted answer, event.IsPlain := by
  unfold toCharge charging diverting
  rw [List.forall_mem_append]
  refine ⟨isPlain_opening plan id, ?_⟩
  cases diverted <;> simp [Event.IsPlain, Plan.prepared, logged, Request.step]

/-- Everything is plain up to the shipment. -/
theorem isPlain_toShipment (transaction : String) (answer : Except CallFailure String) :
    ∀ event ∈ toShipment plan id total diverted transaction answer, event.IsPlain := by
  unfold toShipment charged
  rw [List.forall_mem_append, List.forall_mem_append]
  refine ⟨⟨isPlain_toCharge plan id total diverted _, ?_⟩, ?_⟩ <;>
    simp [Event.IsPlain, logged, Request.step]

/-- Everything is orderly up to the end. -/
theorem isOrderly_toEnd (transaction tracking : String) (answer : Except CallFailure Unit) :
    ∀ event ∈ toEnd plan id total diverted transaction tracking answer, event.IsOrderly := by
  unfold toEnd
  rw [List.forall_mem_append, List.forall_mem_append, List.forall_mem_append]
  refine ⟨⟨⟨fun event hevent ↦ ?_, ?_⟩, ?_⟩, ?_⟩
  · exact (isPlain_toShipment plan id total diverted _ _ event hevent).isOrderly
  · simp [Event.IsOrderly]
  · cases answer <;> simp [clearing, Event.IsOrderly, Request.step, BestEffortError.step]
  · simp [completing, Event.IsOrderly]

variable {id : OrderId} {request : OrderRequest} {events : List Event}

/-- Everything is plain when an order fails. -/
theorem Conforms.isPlain {error : PlacementError} (h : Conforms id request events (.error error)) :
    ∀ event ∈ events, event.IsPlain := by
  generalize hresult : (.error error : Except PlacementError Order) = result at h
  cases h with
  | refused => exact fun _ h ↦ absurd h List.not_mem_nil
  | stopped plan hvalid hstops => exact isPlain_of_stopsAt (isPlain_opening plan id) hstops
  | unpayable plan => exact isPlain_opening plan id
  | uncharged plan => exact isPlain_toCharge plan id _ _ _
  | unshipped plan =>
      rw [List.forall_mem_append]
      refine ⟨isPlain_toShipment plan id _ _ _ _, ?_⟩
      simp [chargedInVain, logged, Event.IsPlain]
  | placed => cases hresult

/-- Everything is orderly in a checkout. -/
theorem Conforms.isOrderly {result : Except PlacementError Order}
    (h : Conforms id request events result) : ∀ event ∈ events, event.IsOrderly := by
  cases result with
  | error error => exact fun event hevent ↦ (h.isPlain event hevent).isOrderly
  | ok order =>
      cases h with
      | placed plan diverted transaction tracking answer =>
          exact isOrderly_toEnd plan id _ diverted transaction tracking answer

/-- What is checked of a request is for its user and goes to its address, blanks at the ends
aside. -/
theorem parts_of_validate {valid : ValidRequest} (h : request.validate = .ok valid) :
    valid.user = request.user ∧ valid.email = Text.trim request.email := by
  unfold OrderRequest.validate at h
  simp only [bind, Except.bind, pure, Except.pure] at h
  -- Each check that fails is an error; the last branch has passed all four.
  split at h
  · cases h
  split at h
  · cases h
  split at h
  · cases h
  split at h
  · cases h
  · cases h
    exact ⟨rfl, rfl⟩

/-- What is confirmed of a request goes to its address, blanks at the ends aside. -/
theorem email_of_validate {valid : ValidRequest} (h : request.validate = .ok valid) :
    valid.email = Text.trim request.email :=
  (parts_of_validate h).2

/-- An order is complete exactly if it is placed, and it is confirmed to the address of the
request. -/
theorem Conforms.completionsOf_eq {result : Except PlacementError Order}
    (h : Conforms id request events result) :
    completionsOf events =
      result.toOption.toList.map fun order ↦ (order, Text.trim request.email) := by
  cases result with
  | error error =>
      exact List.filterMap_eq_nil_iff.mpr fun event hevent ↦
        (h.isPlain event hevent).completion?_eq
  | ok order =>
      cases h with
      | @placed valid total plan diverted transaction tracking answer hvalid =>
          have hshipped : completionsOf
              (toShipment plan id total diverted transaction (.ok tracking)) = [] :=
            List.filterMap_eq_nil_iff.mpr fun event hevent ↦
              (isPlain_toShipment plan id total diverted _ _ event hevent).completion?_eq
          unfold toEnd
          rw [completionsOf, List.filterMap_append, List.filterMap_append, List.filterMap_append,
            ← completionsOf, hshipped, ← email_of_validate hvalid]
          cases answer <;> rfl

end Checkout

end Storefront
