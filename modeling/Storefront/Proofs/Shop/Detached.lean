import Storefront.Proofs.Checkout.Finish
import Storefront.Proofs.Shop.Boundary
import Storefront.Proofs.Shop.Promise

/-!
# Beyond the reach of the caller

A deadline or a cancellation can end an order up to its shipment. After that the caller reaches
nothing but the emptying of the cart. `place_outlives_limits` compares an order that is placed for a
caller with limits with the same order for a caller without: up to the shipment both go the same
way, `Hosts.detached`, and from there the same order is placed, with the same promises.
-/

namespace Storefront

namespace Shop

variable {caller : Caller} {abandonAt : Option Nat} {shop next final : Shop} {span last : Span}

/-- A call that nothing interrupts is sent as it would be without limits. -/
theorem send_detached {request : Request} (h : (shop.send caller request).1.interruption = none) :
    shop.send caller.detached request = shop.send caller request := by
  have hfate : caller.limits.fate shop.clock
      (some (shop.clock + shop.collaborators.delay request)) =
        .ends (shop.clock + shop.collaborators.delay request) none :=
    Limits.fate_of_uninterrupted (Nat.le_add_right _ _) h
  have hfree : caller.detached.limits.fate shop.clock
      (some (shop.clock + shop.collaborators.delay request)) =
        .ends (shop.clock + shop.collaborators.delay request) none := fate_none _ _
  unfold send startSpan warnOf
  dsimp only
  rw [hfate, hfree]
  rfl

/-- A call that is answered goes as it would without limits, or it is interrupted and changes
nothing. -/
theorem call_detached {request : Request} {answer : Except CallFailure request.Accepted}
    (h : shop.call caller abandonAt request = (some answer, next)) :
    shop.call caller.detached none request = (some answer, next) ∨
      (∃ reason, answer = .error (.interrupted reason)) ∧
        next.collaborators.stores = shop.collaborators.stores := by
  have hsettle := settle_of_call h
  cases hinterruption : (shop.send caller request).1.interruption with
  | none =>
      left
      unfold call
      dsimp only
      rw [send_detached hinterruption, waitOrAbandon_none_eq, if_pos rfl, hsettle]
  | some reason =>
      right
      have hsend : shop.Passes 0 (shop.send caller request).2 :=
        .of_serves (shop.send_serves caller request 0) rfl rfl (add_zero _).symm
      have hwaits := hsend.trans (waitUntil_passes _ (shop.send caller request).1.time)
      generalize (shop.send caller request).2.waitUntil _ = waiting at hsettle hwaits
      obtain ⟨last, hlast⟩ := waiting.exists_settle_eq request (shop.send caller request).1
      have hanswer : waiting.answerUnless request (shop.send caller request).1 =
          (.error (.interrupted reason), waiting) := by
        unfold answerUnless
        rw [hinterruption]
      rw [hlast, hanswer] at hsettle
      cases hsettle
      exact ⟨⟨reason, rfl⟩, hwaits.stores_eq⟩

/-- A note does not depend on limits. -/
theorem note_detached (shop : Shop) (caller : Caller) (span : Span) (n : Note) :
    shop.note caller.detached span n = shop.note caller span n := by
  cases n <;> rfl

/-- A conversation in which no call fails goes as it would without limits. -/
theorem Hosts.detached {events : List Event}
    (hcalls : ∀ call ∈ callsOf events, call.succeeded = true)
    (h : Hosts caller abandonAt span shop events last final) :
    Hosts caller.detached none span shop events last final := by
  induction h with
  | done => exact .done
  | asked hcall _ ih =>
      rw [callsOf_asked, List.forall_mem_cons] at hcalls
      rcases call_detached hcall with hfree | ⟨⟨reason, rfl⟩, -⟩
      · exact .asked hfree (ih hcalls.2)
      · cases hcalls.1
  | consulted _ ih => exact .consulted (ih hcalls)
  | @noted span shop n events last final _ ih =>
      have hrest := ih hcalls
      rw [← note_detached] at hrest
      exact .noted hrest

/-- A conversation and then another are one. -/
theorem Hosts.append {events more : List Event} {between : Span} {middle : Shop}
    (hfirst : Hosts caller abandonAt span shop events between middle)
    (hrest : Hosts caller abandonAt between middle more last final) :
    Hosts caller abandonAt span shop (events ++ more) last final := by
  induction hfirst with
  | done => exact hrest
  | asked hcall _ ih => exact .asked hcall (ih hrest)
  | consulted _ ih => exact .consulted (ih hrest)
  | noted _ ih => exact .noted (ih hrest)

/-- A conversation that begins with a call goes on after it. -/
theorem Hosts.exists_call {call : Call} {events : List Event}
    (h : Hosts caller abandonAt span shop (.asked call :: events) last final) :
    ∃ next, shop.call caller abandonAt call.request = (some call.answer, next) ∧
      Hosts caller abandonAt span next events last final := by
  cases h with
  | asked hcall hrest => exact ⟨_, hcall, hrest⟩

/-- A conversation without calls changes nothing at the collaborators. -/
theorem Hosts.collaborators_eq {events : List Event} (hcalls : callsOf events = [])
    (h : Hosts caller abandonAt span shop events last final) :
    final.collaborators = shop.collaborators := by
  induction h with
  | done => rfl
  | asked => cases hcalls
  | consulted _ ih => exact ih hcalls
  | @noted span shop n events last final _ ih =>
      rw [ih hcalls]
      exact (shop.note_keeps caller span n).2.1

/-- When it is asked to empty a cart the service removes it or does nothing. -/
theorem stores_emptyCart {user : UserId} {answer : Except CallFailure Unit}
    (h : shop.call caller abandonAt (.emptyCart user) = (some answer, next)) :
    next.collaborators.stores = shop.collaborators.stores ∨
      next.collaborators.stores =
        { shop.collaborators.stores with carts := shop.collaborators.carts.clear user } := by
  obtain ⟨waiting, sent, hpasses, hsettle⟩ := exists_settle_of_call h
  have hwaiting := hpasses.stores_eq
  have hcarts : waiting.collaborators.carts = shop.collaborators.carts :=
    (congrArg Collaborators.carts hwaiting :)
  obtain ⟨_, heq⟩ := waiting.exists_settle_eq (.emptyCart user) sent
  rw [heq] at hsettle
  cases hsettle
  rw [← hwaiting, ← hcarts]
  show (waiting.answerUnless (.emptyCart user) sent).2.collaborators.stores = _ ∨ _
  unfold answerUnless
  cases sent.interruption with
  | some reason => exact .inl rfl
  | none =>
      unfold answer Collaborators.answer
      dsimp only
      split
      · exact .inl rfl
      · unfold Collaborators.serviceAnswer Carts.emptyCart
        dsimp only
        split
        · exact .inl rfl
        · exact .inr rfl

/-- `next.Spares user free` says that at most the cart of the user tells two shops apart: it may
have been emptied only in `free`. -/
def Spares (next : Shop) (user : UserId) (free : Shop) : Prop :=
  free.collaborators.stores = next.collaborators.stores ∨
    free.collaborators.stores =
      { next.collaborators.stores with carts := next.collaborators.carts.clear user }

/-- After the shipment limits only tell whether the cart is emptied. -/
theorem exists_finish_detached {id : OrderId} {s : Checkout.ShippedOrder}
    {answer : Except CallFailure Unit}
    (h : Hosts caller abandonAt span shop (Checkout.finishing id s answer) last final) :
    ∃ answer' last' free,
      (Checkout.finish id s).Plays (Checkout.finishing id s answer') (.ok (s.order id)) ∧
      Hosts caller.detached none span shop (Checkout.finishing id s answer') last' free ∧
      final.Spares s.request.user free := by
  obtain ⟨value, last', free, hconverse⟩ :=
    exists_converse caller.detached (Checkout.finish id s).run span shop
  obtain ⟨events, hplays, hfree⟩ := converse_eq_some_iff.mp hconverse
  obtain ⟨answer', rfl, rfl⟩ := Checkout.plays_finish hplays
  refine ⟨answer', last', free, hplays, hfree, ?_⟩
  -- Both conversations begin with the cart, and nothing is asked after it.
  have hsplit : ∀ answer : Except CallFailure Unit, ∃ notes, callsOf notes = [] ∧
      Checkout.finishing id s answer = .asked ⟨.emptyCart s.request.user, answer⟩ :: notes := by
    intro answer
    have hcalls := Checkout.callsOf_finishing id s answer
    unfold Checkout.finishing Checkout.clearing at hcalls ⊢
    cases answer <;> exact ⟨_, List.cons_injective hcalls, rfl⟩
  obtain ⟨notes, hnotes, hevents⟩ := hsplit answer
  obtain ⟨notes', hnotes', hevents'⟩ := hsplit answer'
  rw [hevents] at h
  rw [hevents'] at hfree
  obtain ⟨middle, hcall, hrest⟩ := h.exists_call
  obtain ⟨middle', hcall', hrest'⟩ := hfree.exists_call
  unfold Spares
  rw [hrest.collaborators_eq hnotes, hrest'.collaborators_eq hnotes']
  rcases call_detached hcall with hsame | ⟨-, hsame⟩
  · rw [hcall'] at hsame
    cases hsame
    exact .inl rfl
  · have hcarts : middle.collaborators.carts = shop.collaborators.carts :=
      (congrArg Collaborators.carts hsame :)
    rw [hsame, hcarts]
    exact stores_emptyCart hcall'

/-- Whoever places an order could have placed it without limits, and at most the cart would tell. -/
theorem Places.exists_detached {request : OrderRequest} {events : List Event} {order : Order}
    (h : shop.Places caller abandonAt request events (.ok order) final) :
    ∃ events' free, shop.Places caller.detached none request events' (.ok order) free ∧
      final.Spares request.user free := by
  obtain ⟨hplays, last, closing, hhosts, rfl⟩ := h
  obtain ⟨s, first, answer, rfl, hfirst, rfl⟩ := Checkout.exists_shipped hplays
  obtain ⟨huser, hcalls⟩ := Checkout.plays_toShipped hfirst
  obtain ⟨between, middle, hbefore, hafter⟩ := hhosts.split
  obtain ⟨answer', last', free, hplays', hfree, hspares⟩ := exists_finish_detached hafter
  refine ⟨first ++ Checkout.finishing shop.nextOrder s answer',
    free.closeOrder last' (.ok (s.order shop.nextOrder)),
    ⟨?_, last', free, (hbefore.detached hcalls).append hfree, rfl⟩, huser ▸ hspares⟩
  rw [Checkout.placeOrder_eq]
  exact Dialogue.Plays.bind hfirst hplays'

/-- What an order has promised is delivered when the background is at rest. -/
theorem Places.brings {request : OrderRequest} {events : List Event}
    {result : Except PlacementError Order} (hfree : shop.IsFree) (hlive : shop.IsLive)
    (h : shop.Places caller abandonAt request events result final) :
    final.drain.2.tasks = [] ∧
      shop.collaborators.Brings
        (shop.forecast +
          shop.promises (caller.context.withParent (shop.openOrder caller request).1.context)
            (result.toOption.toList.map fun order ↦ (order, Text.trim request.email)))
        final.drain.2.collaborators 0 := by
  have hundertakes := h.undertakes hfree hlive
  exact ⟨tasks_drain hundertakes.isLive,
    hundertakes.keeps.brings.trans (drain_keeps hundertakes.keeps.isFree hundertakes.isLive)⟩

/-- The background touches neither the carts nor any other store. -/
theorem Spares.drain {user : UserId} {free : Shop} (h : final.Spares user free) :
    final.drain.2.Spares user free.drain.2 := by
  have hstores := final.drain_passes.stores_eq
  have hcarts : final.drain.2.collaborators.carts = final.collaborators.carts :=
    (congrArg Collaborators.carts hstores :)
  unfold Spares
  rw [hstores, hcarts, free.drain_passes.stores_eq]
  exact h

/-- From its shipment on an order is beyond the reach of its caller: it comes to the same end as
without limits, and the same is delivered. -/
theorem place_outlives_limits (hshop : IsReachable shop) {request : OrderRequest} {order : Order}
    (h : shop.place caller abandonAt request = (some (.ok order), final)) :
    ∃ free, shop.place caller.detached none request = (some (.ok order), free) ∧
      final.drain.2.tasks = [] ∧ free.drain.2.tasks = [] ∧
      shop.collaborators.DeliversAlike final.drain.2.collaborators free.drain.2.collaborators ∧
      final.drain.2.Spares request.user free.drain.2 := by
  obtain ⟨hfree, hlive⟩ := hshop.isFree
  obtain ⟨events, hplaces⟩ := place_eq_some_iff.mp h
  obtain ⟨events', free, hplaces', hspares⟩ := hplaces.exists_detached
  obtain ⟨hrest, hbrings⟩ := hplaces.brings hfree hlive
  obtain ⟨hrest', hbrings'⟩ := hplaces'.brings hfree hlive
  exact ⟨free, place_eq_some_iff.mpr ⟨events', hplaces'⟩, hrest, hrest',
    Collaborators.deliversAlike_of_brings hbrings hbrings', hspares.drain⟩

/-- The demonstration shop with carts that take their time. -/
def slowCartsShop : Shop :=
  let shop := Demo.start .standard 0 0
  { shop with
    collaborators :=
      { shop.collaborators with carts := { shop.collaborators.carts with delay := some 10 } } }

/-- A caller whose deadline comes while the cart is emptied. -/
def hurriedCaller : Caller :=
  ⟨.empty, ⟨some 15, none⟩⟩

/-- A deadline that comes while the cart is emptied leaves the cart and changes nothing else. -/
theorem slow_carts_outlive_limits : ∃ order final free,
    slowCartsShop.place hurriedCaller none demoAddressed = (some (.ok order), final) ∧
      slowCartsShop.place .background none demoAddressed = (some (.ok order), free) ∧
      final.drain.2.tasks = [] ∧ free.drain.2.tasks = [] ∧
      slowCartsShop.collaborators.DeliversAlike final.drain.2.collaborators
        free.drain.2.collaborators ∧
      final.drain.2.Spares demoAddressed.user free.drain.2 ∧
      (final.collaborators.carts.lines demoAddressed.user).length = 2 ∧
      free.collaborators.carts.lines demoAddressed.user = [] := by
  have hplaced : (slowCartsShop.place hurriedCaller none demoAddressed).1.any Except.isOk = true :=
    rfl
  have hkept : ((slowCartsShop.place hurriedCaller none demoAddressed).2.collaborators.carts.lines
      demoAddressed.user).length = 2 := rfl
  have hemptied : (slowCartsShop.place .background none demoAddressed).2.collaborators.carts.lines
      demoAddressed.user = [] := rfl
  rcases hplace : slowCartsShop.place hurriedCaller none demoAddressed with ⟨_ | _ | order, final⟩
  · rw [hplace] at hplaced
    cases hplaced
  · rw [hplace] at hplaced
    cases hplaced
  · obtain ⟨free, hfree, hrest⟩ := place_outlives_limits (.idle rfl) hplace
    obtain ⟨hdone, hdone', halike, hspares⟩ := hrest
    rw [hplace] at hkept
    rw [show Caller.background = hurriedCaller.detached from rfl, hfree] at hemptied
    exact ⟨order, final, free, rfl, hfree, hdone, hdone', halike, hspares, hkept, hemptied⟩

end Shop

end Storefront
