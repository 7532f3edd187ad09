import Storefront.Proofs.Checkout.Completion
import Storefront.Proofs.Checkout.Conformance
import Storefront.Proofs.Shop.Operations
import Storefront.Proofs.Shop.Rest

/-!
# What an order commits a shop to

A conversation asks what it asks on behalf of its caller, and a complete order leaves duties to the
background: to confirm it if there is an address, and to announce it once and as many times more as
the faults demand. `Places.exists_stages` enters an order that is placed or not into the ledger with
all of this, whatever the background does meanwhile.
-/

namespace Storefront

/-- What a complete order leaves to the background. -/
def followUps (announces : Bool) (extra : Nat) (origin : Context) (order : Order)
    (email : String) : Multiset Duty :=
  (if email = "" then 0 else {.ask origin (.confirm ⟨email, order⟩)}) +
    if announces then .replicate (1 + extra) (.announce origin order) else 0

/-- What an event gives to do. -/
def Event.duties (announces : Bool) (extra : Nat) (origin : Context) : Event → Multiset Duty
  | asked call => {.ask origin call.request}
  | noted (.completed order email) => followUps announces extra origin order email
  | consulted _ | noted _ => 0

/-- What a conversation gives to do. -/
def dutiesOf (announces : Bool) (extra : Nat) (origin : Context) (events : List Event) :
    Multiset Duty :=
  (events.map (Event.duties announces extra origin)).sum

/-- What a conversation gives to do are its calls and what follows complete orders. -/
theorem dutiesOf_eq (announces : Bool) (extra : Nat) (origin : Context) (events : List Event) :
    dutiesOf announces extra origin events =
      ↑((callsOf events).map fun call ↦ Duty.ask origin call.request) +
        ((completionsOf events).map fun c ↦ followUps announces extra origin c.1 c.2).sum := by
  induction events with
  | nil => rfl
  | cons event rest ih =>
      have hcons : dutiesOf announces extra origin (event :: rest) =
          event.duties announces extra origin + dutiesOf announces extra origin rest :=
        List.sum_cons
      rw [hcons, ih]
      match event with
      | .asked call =>
          show {Duty.ask origin call.request} + _ = _
          rw [← add_assoc, Multiset.singleton_add, Multiset.cons_coe]
          rfl
      | .consulted _ => exact zero_add _
      | .noted (.completed order email) =>
          have hcompletions : completionsOf (.noted (.completed order email) :: rest) =
              (order, email) :: completionsOf rest := rfl
          rw [callsOf_noted, hcompletions, List.map_cons, List.sum_cons, add_left_comm]
          rfl
      | .noted (.attribute ..) | .noted (.event ..) | .noted (.line _) | .noted (.progress ..)
      | .noted (.setback _) => exact zero_add _

/-- What is done on behalf of an order that is placed or not: what was asked, and what follows if
it was placed. -/
def orderDuties (announces : Bool) (extra : Nat) (origin : Context) (request : OrderRequest)
    (calls : List Call) (result : Except PlacementError Order) : Multiset Duty :=
  ↑(calls.map fun call ↦ Duty.ask origin call.request) +
    match result with
    | .ok order => followUps announces extra origin order (Text.trim request.email)
    | .error _ => 0

/-- A checkout gives to do what is done on behalf of its order. -/
theorem dutiesOf_conforms {id : OrderId} {request : OrderRequest} {events : List Event}
    {result : Except PlacementError Order} (h : Checkout.Conforms id request events result)
    (announces : Bool) (extra : Nat) (origin : Context) :
    dutiesOf announces extra origin events =
      orderDuties announces extra origin request (callsOf events) result := by
  rw [dutiesOf_eq, h.completionsOf_eq]
  unfold orderDuties
  cases result with
  | ok order => exact congrArg (_ + ·) (List.sum_singleton)
  | error error => rfl

namespace Shop

variable (fixed : Prop) {caller : Caller} {abandonAt : Option Nat} {shop final next : Shop}
  {span last : Span}

/-- While a call waits, tasks do what is to be done for them, and all stay live. -/
theorem waitOrAbandon_goes (shop : Shop) (abandonAt : Option Nat) (moment : Nat) :
    shop.books.Goes fixed (loadOf shop.tasks) [] (shop.waitOrAbandon abandonAt moment).2.books
        (loadOf (shop.waitOrAbandon abandonAt moment).2.tasks) ∧
      (shop.IsLive → (shop.waitOrAbandon abandonAt moment).2.IsLive) := by
  unfold waitOrAbandon
  split
  · exact ⟨.refl _ _, id⟩
  · cases abandonAt with
    | none => exact ⟨shop.waitUntil_goes fixed moment, fun h ↦ waitUntil_isLive h moment⟩
    | some early =>
        dsimp only
        split
        · exact ⟨shop.waitUntil_goes fixed early, fun h ↦ waitUntil_isLive h early⟩
        · exact ⟨shop.waitUntil_goes fixed moment, fun h ↦ waitUntil_isLive h moment⟩

/-- A call that is not abandoned is an operation on behalf of its caller. -/
theorem call_goes {request : Request} {answer : Except CallFailure request.Accepted}
    (hstep : request.step ≠ .sendConfirmation)
    (h : shop.call caller abandonAt request = (some answer, next)) :
    shop.books.Goes fixed (loadOf shop.tasks + ({.ask caller.context request}, 0))
        [.asked ⟨request, answer⟩] next.books (loadOf next.tasks) ∧
      (shop.IsLive → next.IsLive) := by
  unfold call at h
  dsimp only at h
  split at h
  · cases h
    have hsend := (shop.send_goes fixed caller request).frame (loadOf shop.tasks)
    have hsendTasks : (shop.send caller request).2.tasks = shop.tasks :=
      (shop.send_serves caller request 0).tasks_eq
    generalize shop.send caller request = started at hsend hsendTasks ⊢
    obtain ⟨sent, sending⟩ := started
    obtain ⟨hwait, hlive⟩ := sending.waitOrAbandon_goes fixed abandonAt sent.time
    -- The operation waits besides the tasks.
    have hmeanwhile := hwait.frame
      (0, {⟨caller.context, sent.span, .ask request, sent.interruption⟩})
    dsimp only at hsend hsendTasks hwait hlive hmeanwhile ⊢
    generalize (sending.waitOrAbandon abandonAt sent.time).2 = waiting at hwait hlive hmeanwhile ⊢
    have hsettle :=
      (waiting.settle_goes fixed caller.context hstep sent).frame (loadOf waiting.tasks)
    obtain ⟨-, htasks, -⟩ := waiting.settle_keeps request sent
    rw [hsendTasks, add_comm, add_comm (loadOf waiting.tasks)] at hmeanwhile
    refine ⟨?_, fun hshop ↦ ?_⟩
    · rw [add_comm, htasks, ← zero_add (loadOf waiting.tasks)]
      exact (hsend.trans_quiet hmeanwhile).trans_quiet hsettle
    · rw [IsLive, htasks]
      refine hlive ?_
      rw [IsLive, hsendTasks]
      exact hshop
  · cases h

/-- A task that is started is to be done. -/
theorem startTask_goes (shop : Shop) {task : Task} (hfresh : task.due? = none) :
    shop.books.Goes fixed (loadOf shop.tasks + task.load) [] (shop.startTask task).books
        (loadOf (shop.startTask task).tasks) ∧
      (shop.IsLive → (shop.startTask task).IsLive) := by
  have hload : loadOf (shop.startTask task).tasks = loadOf shop.tasks + task.load := by
    simp [startTask]
  refine ⟨?_, fun hlive ↦ ?_⟩
  · rw [hload]
    exact .refl _ _
  · rw [IsLive, startTask, List.forall_mem_append, List.forall_mem_singleton]
    exact ⟨hlive, Task.isLive_of_fresh hfresh⟩

/-- An order is to be confirmed if there is an address. -/
theorem startConfirmation_goes (shop : Shop) (caller : Caller) (order : Order) (email : String) :
    shop.books.Goes fixed
        (loadOf shop.tasks +
          (if email = "" then 0 else {.ask caller.context (.confirm ⟨email, order⟩)}, 0)) []
        (shop.startConfirmation caller order email).books
        (loadOf (shop.startConfirmation caller order email).tasks) ∧
      (shop.IsLive → (shop.startConfirmation caller order email).IsLive) := by
  unfold startConfirmation
  split
  · exact ⟨.of_idle (.refl _) rfl _, id⟩
  · exact shop.startTask_goes fixed rfl

/-- An order is to be announced if orders are announced at all. -/
theorem startAnnouncement_goes (shop : Shop) (caller : Caller) (order : Order) :
    shop.books.Goes fixed
        (loadOf shop.tasks +
          (if shop.announces then
            .replicate (1 + shop.faults.extra) (.announce caller.context order) else 0, 0)) []
        (shop.startAnnouncement caller order).books
        (loadOf (shop.startAnnouncement caller order).tasks) ∧
      (shop.IsLive → (shop.startAnnouncement caller order).IsLive) := by
  unfold startAnnouncement
  split
  · exact shop.startTask_goes fixed rfl
  · exact ⟨.of_idle (.refl _) rfl _, id⟩

/-- A note gives to do what a complete order leaves to the background. -/
theorem note_goes (shop : Shop) (caller : Caller) (span : Span) {n : Note}
    (horderly : (Event.noted n).IsOrderly) :
    shop.books.Goes fixed
        (loadOf shop.tasks +
          ((Event.noted n).duties shop.announces shop.faults.extra caller.context, 0)) []
        (shop.note caller span n).2.books (loadOf (shop.note caller span n).2.tasks) ∧
      (shop.IsLive → (shop.note caller span n).2.IsLive) ∧
      span.Grows (shop.note caller span n).1 := by
  match n with
  | .attribute key value => exact ⟨.of_idle (.refl _) rfl _, id, .setAttribute span key value⟩
  | .event name attributes =>
      exact ⟨.of_idle (.refl _) rfl _, id, .addEvent span name attributes⟩
  | .line _ | .progress .. => exact ⟨.of_idle (.refl _) rfl _, id, .refl span⟩
  | .setback error =>
      have hstep : ∀ step, step ≠ .emptyCart →
          Measurement.stepFailed error.step ≠ .stepFailed step := by
        rintro step hne hsame
        rw [show error.step = .emptyCart from horderly] at hsame
        exact hne (Measurement.stepFailed.inj hsame).symm
      exact ⟨.of_idle (.measured _ hstep) rfl _, id, .addEvent span _ _⟩
  | .completed order email =>
      obtain ⟨hconfirm, hlive⟩ := shop.reap.startConfirmation_goes fixed caller.detached order email
      obtain ⟨hannounce, hlive'⟩ :=
        (shop.reap.startConfirmation caller.detached order email).startAnnouncement_goes fixed
          caller.detached order
      -- Starting the confirmation changes neither the faults nor whether orders are announced.
      have hsame : (shop.reap.startConfirmation caller.detached order email).faults = shop.faults ∧
          (shop.reap.startConfirmation caller.detached order email).announces =
            shop.announces := by
        unfold startConfirmation
        split <;> exact ⟨rfl, rfl⟩
      rw [hsame.1, hsame.2] at hannounce
      refine ⟨?_, fun h ↦ hlive' (hlive h), .refl span⟩
      have hgoes := (hconfirm.frame _).trans_quiet hannounce
      rw [add_assoc] at hgoes
      exact hgoes

/-- A conversation does what is asked in it and leaves what follows to the background. -/
theorem Hosts.goes {events : List Event} (horderly : ∀ event ∈ events, event.IsOrderly)
    (h : Hosts caller abandonAt span shop events last final) :
    shop.books.Goes fixed
        (loadOf shop.tasks +
          (dutiesOf shop.announces shop.faults.extra caller.context events, 0))
        ((callsOf events).map Outcome.asked) final.books (loadOf final.tasks) ∧
      (shop.IsLive → final.IsLive) ∧ span.Grows last := by
  induction h with
  | done => exact ⟨.of_idle (.refl _) rfl _, id, .refl _⟩
  | @asked span shop request answer next events last final hcall _ ih =>
      obtain ⟨hasked, horderly⟩ := List.forall_mem_cons.mp horderly
      obtain ⟨hgoes, hlive⟩ := call_goes fixed hasked hcall
      obtain ⟨hrest, hlive', hgrows⟩ := ih horderly
      -- Neither the faults nor the settings have changed since the call was sent.
      have hannounces : next.announces = shop.announces := hgoes.announces_eq
      rw [(call_passes hcall).1, hannounces] at hrest
      have hall := (hgoes.frame _).trans hrest
      rw [add_assoc] at hall
      exact ⟨hall, fun h ↦ hlive' (hlive h), hgrows⟩
  | consulted _ ih =>
      obtain ⟨hrest, hlive, hgrows⟩ := ih (List.forall_mem_cons.mp horderly).2
      have hduties : ∀ announces extra origin diverted events,
          dutiesOf announces extra origin (.consulted diverted :: events) =
            dutiesOf announces extra origin events := fun _ _ _ _ _ ↦
        List.sum_cons.trans (zero_add _)
      rw [hduties]
      exact ⟨hrest, hlive, hgrows⟩
  | @noted span shop n events last final _ ih =>
      obtain ⟨hnoted, horderly⟩ := List.forall_mem_cons.mp horderly
      obtain ⟨hgoes, hlive, hgrows⟩ := shop.note_goes fixed caller span hnoted
      obtain ⟨hrest, hlive', hgrows'⟩ := ih horderly
      have hannounces : (shop.note caller span n).2.announces = shop.announces :=
        hgoes.announces_eq
      rw [(shop.note_keeps caller span n).1, hannounces] at hrest
      have hall := (hgoes.frame _).trans_quiet hrest
      rw [add_assoc] at hall
      exact ⟨hall, fun h ↦ hlive' (hlive h), hgrows.trans hgrows'⟩

/-- The start of an order starts an operation on behalf of its caller. -/
theorem openOrder_performs (shop : Shop) (caller : Caller) (request : OrderRequest) :
    shop.books.Performs fixed
      [⟨⟨caller.context, (shop.openOrder caller request).1, .place request, none⟩, none⟩] []
      (shop.openOrder caller request).2.books := by
  have hbegins : (shop.openOrder caller request).1.Begins "PlaceOrder" .server
      caller.context.parent :=
    (shop.tracer.start_begins _ _ _).of_grows (.setAttributes _ _)
  have hmeasured : shop.books.Performs fixed [] [] (shop.openOrder caller request).2.books :=
    .measured _ fun _ _ ↦ by simp
  exact {
    hmeasured with
    started_sound := by
      rw [List.forall_mem_singleton]
      exact ⟨hbegins, fun _ h ↦ absurd h (Option.not_mem_none _), by rintro _ _ ⟨⟩⟩
    started_heard := by
      rw [List.forall_mem_singleton]
      rintro - _ ⟨⟩ }

/-- The end of an order finishes its operation. -/
theorem closeOrder_performs (shop : Shop) (origin : Context) (request : OrderRequest)
    (hgrows : span.Grows last) (result : Except PlacementError Order) :
    ∃ final, shop.books.Performs fixed [] [⟨origin, span, .placed request result, final⟩]
      (shop.closeOrder last result).books := by
  cases result with
  | ok order =>
      refine ⟨last, .of_finished (.done hgrows) rfl rfl (fun step _ ↦ ?_) fun h ↦ ⟨h, rfl, rfl⟩⟩
      show List.count _ (.orderTimed :: shop.metrics) = _
      rw [List.count_cons_of_ne (by simp)]
      rfl
  | error error =>
      refine ⟨last.fail error.message, .of_finished (.failed hgrows error.message) rfl rfl
        (fun step _ ↦ ?_) fun h ↦ ⟨h, rfl, rfl⟩⟩
      show List.count _ (.orderTimed :: .orderFailed error.step :: shop.metrics) = _
      rw [List.count_cons_of_ne (by simp), List.count_cons_of_ne (by simp)]
      rfl

/-- The operation of an order starts before everything that is done for the order and finishes
before what is left to the background. -/
theorem Places.exists_stages {request : OrderRequest} {events : List Event}
    {result : Except PlacementError Order}
    (h : shop.Places caller abandonAt request events result final) :
    ∃ server opened closing last,
      shop.books.Performs fixed [⟨⟨caller.context, server, .place request, none⟩, none⟩] [] opened ∧
      opened.Goes fixed
        (loadOf shop.tasks +
          (orderDuties shop.announces shop.faults.extra
            (caller.context.withParent server.context) request (callsOf events) result, 0))
        ((callsOf events).map Outcome.asked) closing (loadOf final.tasks) ∧
      closing.Performs fixed [] [⟨caller.context, server, .placed request result, last⟩]
        final.books ∧
      (shop.IsLive → final.IsLive) := by
  have hconforms := Checkout.conforms h.1
  obtain ⟨-, last, closing, hhosts, rfl⟩ := h
  obtain ⟨hgoes, hlive, hgrows⟩ := hhosts.goes fixed hconforms.isOrderly
  obtain ⟨ended, hclose⟩ := closing.closeOrder_performs fixed caller.context request hgrows result
  have htasks : (closing.closeOrder last result).tasks = closing.tasks := by
    cases result <;> rfl
  rw [dutiesOf_conforms hconforms] at hgoes
  refine ⟨_, _, closing.books, ended, shop.openOrder_performs fixed caller request, ?_, hclose,
    fun hshop ↦ ?_⟩
  · rw [htasks]
    exact hgoes
  · rw [IsLive, htasks]
    exact hlive hshop

end Shop

end Storefront
