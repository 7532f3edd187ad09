import Storefront.Proofs.Checkout.Completion
import Storefront.Proofs.Checkout.Conformance

/-!
# After the shipment

A checkout is all that leads to a shipment, and then what finishes the order: the cart is emptied
and the order is declared complete. `placeOrder_eq` takes it apart. All calls that lead to a
shipment have succeeded, `plays_toShipped`, and from there the order is certain: whatever becomes of
the cart, the same order is placed, `plays_finish`.
-/

namespace Storefront

namespace Dialogue

variable {α β γ : Type}

/-- Going on with the value itself changes nothing. -/
theorem bind_done (d : Dialogue α) : d.bind done = d := by
  induction d with
  | done value => rfl
  | ask request next ih => exact congrArg (ask request) (funext ih)
  | consult next ih => exact congrArg consult (funext ih)
  | note n next ih => exact congrArg (note n) ih

/-- Three parts can be put together from either end. -/
theorem bind_bind (d : Dialogue α) (f : α → Dialogue β) (g : β → Dialogue γ) :
    (d.bind f).bind g = d.bind fun value ↦ (f value).bind g := by
  induction d with
  | done value => rfl
  | ask request next ih => exact congrArg (ask request) (funext ih)
  | consult next ih => exact congrArg consult (funext ih)
  | note n next ih => exact congrArg (note n) ih

instance : LawfulMonad Dialogue :=
  .mk' Dialogue bind_done (fun _ _ ↦ rfl) bind_bind

/-- A play of the first part and then one of the second are a play of both. -/
theorem Plays.bind {d : Dialogue α} {f : α → Dialogue β} {first rest : List Event} {middle : α}
    {value : β} (hfirst : d.Plays first middle) (hrest : (f middle).Plays rest value) :
    (d.bind f).Plays (first ++ rest) value := by
  induction hfirst with
  | done => exact hrest
  | asked hanswer _ ih => exact .asked hanswer (ih hrest)
  | consulted _ ih => exact .consulted (ih hrest)
  | noted _ ih => exact .noted (ih hrest)

end Dialogue

namespace Checkout

open Placement

/-- An order that has been shipped: its request, what it costs, and the name of the shipment. -/
structure ShippedOrder where
  request : ValidRequest
  priced : Priced
  tracking : String

/-- The order as it is confirmed and announced. -/
def ShippedOrder.order (s : ShippedOrder) (id : OrderId) : Order :=
  ⟨id, s.tracking, s.priced.shipping, s.request.address, s.priced.lines, s.priced.total⟩

/-- All that leads to the shipment of an order. -/
def toShipped (id : OrderId) (request : OrderRequest) : Placement ShippedOrder := do
  let request ← .require .invalidRequest request.validate
  .note (.attribute "app.order.id" (.text id.text))
  let cart ← cart request.user
  advance id .validating
  let priced ← priced request cart
  advance id .cartFetched
  let transaction ← pay id request priced.total
  advance id .pricedAndQuoted
  let tracking ← dispatch id request cart transaction
  advance id .charged
  return ⟨request, priced, tracking⟩

/-- All that follows the shipment of an order. -/
def finish (id : OrderId) (s : ShippedOrder) : Placement Order := do
  clearCart s.request.user
  advance id .shipped
  let order ← complete id s.request s.priced s.tracking
  advance id .cartCleared
  return order

/-- A checkout leads to a shipment and then finishes the order. -/
theorem placeOrder_eq (id : OrderId) (request : OrderRequest) :
    placeOrder id request = toShipped id request >>= finish id := by
  simp only [placeOrder, toShipped, finish, bind_assoc, pure_bind]

/-- All that is said after the shipment. -/
def finishing (id : OrderId) (s : ShippedOrder) (answer : Except CallFailure Unit) : List Event :=
  clearing s.request.user answer ++ .noted (.progress id .shipped .cartCleared) ::
    (completing (s.order id) s.request.email ++ [.noted (.progress id .cartCleared .completed)])

/-- Only the cart is asked for after the shipment. -/
theorem callsOf_finishing (id : OrderId) (s : ShippedOrder) (answer : Except CallFailure Unit) :
    callsOf (finishing id s answer) = [⟨.emptyCart s.request.user, answer⟩] := by
  unfold finishing completing
  cases answer <;> rfl

variable {id : OrderId} {request : OrderRequest} {events first rest : List Event}
  {s : ShippedOrder}

/-- Whatever becomes of the cart, a shipped order is placed. -/
theorem plays_finish {result : Except PlacementError Order}
    (h : (finish id s).Plays events result) :
    ∃ answer, events = finishing id s answer ∧ result = .ok (s.order id) := by
  rcases plays_bind h with ⟨error, hclear, rfl⟩ | ⟨_, _, _, rfl, hclear, hcleared⟩
  · obtain ⟨_, _, ⟨⟩⟩ := plays_clearCart hclear
  obtain ⟨answer, rfl, ⟨⟩⟩ := plays_clearCart hclear
  obtain ⟨_, rfl, hcomplete⟩ := (tells_advance rfl).plays_bind hcleared
  obtain ⟨_, rfl, hcompleted⟩ := (tells_complete id s.request s.priced s.tracking).plays_bind
    hcomplete
  obtain ⟨_, rfl, hdone⟩ := (tells_advance rfl).plays_bind hcompleted
  obtain ⟨rfl, rfl⟩ := plays_pure hdone
  exact ⟨answer, by simp [finishing, ShippedOrder.order], rfl⟩

/-- An order that is placed has been shipped and then finished. -/
theorem exists_shipped {order : Order} (h : (placeOrder id request).Plays events (.ok order)) :
    ∃ s first answer, events = first ++ finishing id s answer ∧
      (toShipped id request).Plays first (.ok s) ∧ order = s.order id := by
  rw [placeOrder_eq] at h
  rcases plays_bind h with ⟨_, _, ⟨⟩⟩ | ⟨s, first, rest, rfl, hfirst, hrest⟩
  obtain ⟨answer, rfl, ⟨⟩⟩ := plays_finish hrest
  exact ⟨s, first, answer, rfl, hfirst, rfl⟩

/-- All calls that lead to a shipment have succeeded, and the order is for the user of the
request. -/
theorem plays_toShipped (h : (toShipped id request).Plays first (.ok s)) :
    s.request.user = request.user ∧ ∀ call ∈ callsOf first, call.succeeded = true := by
  obtain ⟨rest, result, hrest⟩ := (finish id s).run.exists_play
  obtain ⟨answer, rfl, rfl⟩ := plays_finish hrest
  have hplays : (placeOrder id request).Plays (first ++ finishing id s answer)
      (.ok (s.order id)) := by
    rw [placeOrder_eq]
    exact Dialogue.Plays.bind h hrest
  have hconforms := conforms hplays
  generalize hevents : first ++ finishing id s answer = events at hconforms
  generalize hresult : Except.ok (s.order id) = result at hconforms
  cases hconforms with
  | @placed valid total plan diverted transaction tracking answer' hvalid =>
      have hcalls := congrArg callsOf hevents
      rw [callsOf_append, callsOf_finishing, callsOf_toEnd] at hcalls
      have hsplit : callsOf first ++ [⟨.emptyCart s.request.user, answer⟩] =
          (plan.pricing ++ [⟨.charge total valid.card diverted, .ok transaction⟩,
            ⟨.shipOrder valid.address plan.cart.lines, .ok tracking⟩]) ++
          [⟨.emptyCart valid.user, answer'⟩] := by
        rw [hcalls]
        simp
      obtain ⟨hfirst, hlast⟩ := List.append_inj' hsplit rfl
      refine ⟨?_, fun call hcall ↦ ?_⟩
      · rw [← (parts_of_validate hvalid).1]
        injection hlast with hlast
        injection hlast with hasked
        injection hasked
      · rw [hfirst] at hcall
        rcases List.mem_append.mp hcall with hcall | hcall
        · exact (Plan.of_mem_pricing hcall).2
        · simp only [List.mem_cons, List.not_mem_nil, or_false] at hcall
          rcases hcall with rfl | rfl <;> rfl
  | refused | stopped | unpayable | uncharged | unshipped => cases hresult

end Checkout

end Storefront
