import Storefront.Proofs.Http.Orders
import Storefront.Proofs.Shop.Boundary
import Storefront.Proofs.Shop.History
import Storefront.Proofs.Shop.Retention
import Storefront.Proofs.Shop.Steady

/-!
# Steady traffic

The demonstration shop under any traffic: customers send messages of any kind, the cart is filled
again, charges are diverted and no longer diverted, and time passes. The main theorem,
`traffic_is_tallied`, says that at every moment the logs are as long as they may be, and that in the
end they are exactly what the answers told the customers: one charge and one shipment for each order
that was created, one confirmation if it has an address, all its announcements, and nothing else.
-/

namespace Storefront.Http

/-- A message from a customer, and the answer. -/
structure Exchange where
  ask : Ask
  answer : Answer

namespace Exchange

/-- The answer says that an order was created. -/
def isCreated (x : Exchange) : Bool :=
  x.answer.status = 201

/-- The message asks for an order that is to be confirmed. -/
def isAddressed (x : Exchange) : Bool :=
  (readOrder x.ask).toOption.any fun request ↦ !Text.isBlankText request.email

/-- The order that was created, as the answer tells it, with the address for its confirmation. -/
def created? (x : Exchange) : Option (Order × String) :=
  if x.isCreated then
    match readOrder x.ask, Decoder.document Order.decoder x.answer.body with
    | .ok request, .ok order => some (order, Text.trim request.email)
    | _, _ => none
  else none

end Exchange

/-- The orders that were created in exchanges, with the addresses for their confirmations. -/
def createdIn (exchanges : List Exchange) : List (Order × String) :=
  exchanges.filterMap Exchange.created?

/-- What is done to the demonstration shop. -/
inductive Deed where
  | ask (ask : Ask)
  | fill (user : UserId)
  | divert (divert : Bool)
  | wait (moment : Nat)

/-- Do something to a shop, and tell what was exchanged. -/
def Deed.run (shop : Shop) : Deed → List Exchange × Shop
  | ask a => ([⟨a, (answer shop a).1⟩], (answer shop a).2)
  | fill user => ([], shop.fillCart user)
  | divert on => ([], shop.setDivert on)
  | wait moment => ([], shop.waitUntil moment)

/-- Do one thing after the other to a shop, and tell what was exchanged. -/
def traffic : List Deed → Shop → List Exchange × Shop
  | [], shop => ([], shop)
  | deed :: rest, shop =>
      let (first, shop) := deed.run shop
      let (more, shop) := traffic rest shop
      (first ++ more, shop)

variable {settings : Settings} {shop next : Shop}

/-- Who asks how the shop is creates no order. -/
theorem handle_of_other (shop : Shop) (ask : Ask) {path : String} (hpath : path ≠ "/orders") :
    (handle shop ask path).1.status = 200 ∧
      ((handle shop ask path).2 = shop ∨ (handle shop ask path).2 = shop.reap) := by
  unfold handle
  rw [if_neg hpath]
  split
  · exact ⟨rfl, .inr rfl⟩
  · exact ⟨rfl, .inl rfl⟩

/-- What is not an order sent by `POST /orders` creates no order. -/
theorem answer_of_other (shop : Shop) {ask : Ask}
    (h : ¬(ask.method = "POST" ∧ targetPath ask.target = "/orders")) :
    (answer shop ask).1.status ≠ 201 ∧
      ((answer shop ask).2 = shop ∨ (answer shop ask).2 = shop.reap) := by
  unfold answer
  dsimp only
  split
  · exact ⟨by simp [shared, options], .inl rfl⟩
  · cases hmethods : methods? (targetPath ask.target) with
    | none => exact ⟨by simp [shared], .inl rfl⟩
    | some methods =>
        dsimp only
        split
        · rename_i hmethod
          have hpath : targetPath ask.target ≠ "/orders" := by
            intro hpath
            rw [hpath] at hmethods
            cases hmethods
            exact h ⟨by simpa using hmethod, hpath⟩
          obtain ⟨hstatus, hnext⟩ := handle_of_other shop ask hpath
          refine ⟨?_, hnext⟩
          split <;> simp [shared, hstatus]
        · exact ⟨by simp [shared], .inl rfl⟩

/-- No refusal says that an order was created. -/
theorem status_ne_created (error : ServiceError) : error.status ≠ 201 := by
  cases error with
  | badRequest => simp [ServiceError.status]
  | placement error => cases error <;> simp [ServiceError.status]

/-- A line in the log yields no order. -/
theorem yields_say (hshop : shop.IsSteady settings) (line : LogLine) :
    shop.Yields settings [] (shop.say line) :=
  .of_same hshop rfl rfl rfl rfl rfl rfl

/-- A refusal yields no order. -/
theorem yields_refusal (hshop : shop.IsSteady settings) (error : ServiceError) :
    shop.Yields settings [] (refusal shop error).2 := by
  unfold refusal
  dsimp only
  split
  · exact yields_say hshop _
  · exact .of_same hshop rfl rfl rfl rfl rfl rfl

/-- `x.IsTold` says that the order is told if one was created. -/
def Exchange.IsTold (x : Exchange) : Prop :=
  x.isCreated = true → ∃ request order, readOrder x.ask = .ok request ∧
    Decoder.document Order.decoder x.answer.body = .ok order

/-- An order for which a message asks is told if it is created, and exactly what is told is
yielded. -/
theorem placeOrder_yields (hshop : shop.IsSteady settings)
    (htimeout : 0 < settings.followUp.notificationTimeout) (ask : Ask) :
    (⟨ask, (placeOrder shop ask).1⟩ : Exchange).IsTold ∧
      shop.Yields settings (⟨ask, (placeOrder shop ask).1⟩ : Exchange).created?.toList
        (placeOrder shop ask).2 := by
  have hrefused : ∀ (final : Shop) (error : ServiceError),
      (⟨ask, (refusal final error).1⟩ : Exchange).isCreated = false :=
    fun final error ↦ decide_eq_false (status_ne_created error)
  unfold placeOrder
  cases hread : readOrder ask with
  | error message =>
      refine ⟨fun hcreated ↦ absurd hcreated (by simp [hrefused]), ?_⟩
      rw [Exchange.created?, hrefused]
      exact yields_refusal hshop _
  | ok request =>
      obtain ⟨result, final, hplace⟩ := shop.exists_place ⟨extract ask.fields, .none⟩ request
      obtain ⟨events, hplaces⟩ := Shop.place_eq_some_iff.mp hplace
      have hyields := hplaces.yields hshop htimeout rfl
      dsimp only
      rw [hplace]
      cases result with
      | error error =>
          refine ⟨fun hcreated ↦ absurd hcreated (by simp [hrefused]), ?_⟩
          rw [Exchange.created?, hrefused]
          exact hyields.trans (yields_refusal hyields.isSteady _)
      | ok order =>
          have htold : (⟨ask, jsonAnswer 201 order.toJson⟩ : Exchange).created? =
              some (order, Text.trim request.email) := by
            have hbody : Decoder.document Order.decoder (jsonAnswer 201 order.toJson).body =
                .ok order := order.document_text
            rw [Exchange.created?, hread, hbody]
            rfl
          refine ⟨fun _ ↦ ⟨request, order, hread, order.document_text⟩, ?_⟩
          rw [htold]
          exact hyields.trans (yields_say hyields.isSteady _)

/-- Whatever message is answered, an order is told if it is created, and exactly what is told is
yielded. -/
theorem answer_yields (hshop : shop.IsSteady settings)
    (htimeout : 0 < settings.followUp.notificationTimeout) (ask : Ask) :
    (⟨ask, (answer shop ask).1⟩ : Exchange).IsTold ∧
      shop.Yields settings (⟨ask, (answer shop ask).1⟩ : Exchange).created?.toList
        (answer shop ask).2 := by
  by_cases horder : ask.method = "POST" ∧ targetPath ask.target = "/orders"
  · rw [answer_eq_placeOrder shop horder.1 horder.2]
    exact placeOrder_yields hshop htimeout ask
  · obtain ⟨hstatus, hnext⟩ := answer_of_other shop horder
    have hcreated : (⟨ask, (answer shop ask).1⟩ : Exchange).isCreated = false :=
      decide_eq_false hstatus
    refine ⟨fun h ↦ absurd h (by simp [hcreated]), ?_⟩
    rw [Exchange.created?, hcreated]
    rcases hnext with hnext | hnext
    · rw [hnext]
      exact .of_same hshop rfl rfl rfl rfl rfl rfl
    · rw [hnext]
      exact .of_same hshop rfl rfl rfl rfl rfl rfl

/-- Whatever is done, exactly the orders that are told are yielded. -/
theorem Deed.run_yields (hshop : shop.IsSteady settings)
    (htimeout : 0 < settings.followUp.notificationTimeout) (deed : Deed) :
    (∀ x ∈ (deed.run shop).1, x.IsTold) ∧
      shop.Yields settings (createdIn (deed.run shop).1) (deed.run shop).2 := by
  cases deed with
  | ask a =>
      obtain ⟨htold, hyields⟩ := answer_yields hshop htimeout a
      refine ⟨List.forall_mem_singleton.mpr htold, ?_⟩
      have hone : createdIn (run shop (.ask a)).1 =
          (⟨a, (answer shop a).1⟩ : Exchange).created?.toList := by
        unfold createdIn run
        dsimp only
        rw [List.filterMap_cons]
        cases (⟨a, (answer shop a).1⟩ : Exchange).created? <;> rfl
      rw [hone]
      exact hyields
  | fill user =>
      refine ⟨List.forall_mem_nil _, ?_⟩
      have hfree := hshop.isFree
      have hkeeps : shop.Keeps 0 (shop.fillCart user) :=
        ⟨rfl, hfree, (Shop.Keeps.refl hfree).brings⟩
      exact .of_keeps hshop hkeeps hshop.isLive rfl rfl rfl rfl
  | divert on =>
      exact ⟨List.forall_mem_nil _, .of_same hshop rfl rfl rfl rfl rfl rfl⟩
  | wait moment => exact ⟨List.forall_mem_nil _, .waitUntil hshop moment⟩

/-- However much is done, exactly the orders that are told are yielded. -/
theorem traffic_yields (hshop : shop.IsSteady settings)
    (htimeout : 0 < settings.followUp.notificationTimeout) (deeds : List Deed) :
    (∀ x ∈ (traffic deeds shop).1, x.IsTold) ∧
      shop.Yields settings (createdIn (traffic deeds shop).1) (traffic deeds shop).2 := by
  induction deeds generalizing shop with
  | nil => exact ⟨List.forall_mem_nil _, .of_same hshop rfl rfl rfl rfl rfl rfl⟩
  | cons deed rest ih =>
      obtain ⟨htold, hfirst⟩ := deed.run_yields hshop htimeout
      obtain ⟨htold', hrest⟩ := ih hfirst.isSteady
      unfold traffic
      dsimp only
      refine ⟨List.forall_mem_append.mpr ⟨htold, htold'⟩, ?_⟩
      rw [createdIn, List.filterMap_append]
      exact hfirst.trans hrest

/-- As many orders are told as were created, and as many with an address as were asked for with
one. -/
theorem length_createdIn {exchanges : List Exchange} (h : ∀ x ∈ exchanges, x.IsTold) :
    (createdIn exchanges).length = exchanges.countP Exchange.isCreated ∧
      (confirmationsOf (createdIn exchanges)).length =
        exchanges.countP fun x ↦ x.isCreated && x.isAddressed := by
  induction exchanges with
  | nil => exact ⟨rfl, rfl⟩
  | cons x rest ih =>
      obtain ⟨htold, hrest⟩ := List.forall_mem_cons.mp h
      obtain ⟨hcreated, hconfirmed⟩ := ih hrest
      cases hx : x.isCreated with
      | false =>
          have hnone : createdIn (x :: rest) = createdIn rest :=
            List.filterMap_cons_none (by rw [Exchange.created?, hx]; rfl)
          rw [hnone, List.countP_cons_of_neg (by simp [hx]), List.countP_cons_of_neg (by simp [hx])]
          exact ⟨hcreated, hconfirmed⟩
      | true =>
          obtain ⟨request, order, hread, hbody⟩ := htold hx
          have hsome : createdIn (x :: rest) =
              (order, Text.trim request.email) :: createdIn rest :=
            List.filterMap_cons_some (by rw [Exchange.created?, hx, hread, hbody]; rfl)
          have haddressed : x.isAddressed = !Text.isBlankText request.email := by
            rw [Exchange.isAddressed, hread]
            rfl
          rw [hsome, List.countP_cons_of_pos hx, List.length_cons, hcreated]
          refine ⟨rfl, ?_⟩
          rw [confirmationsOf_cons]
          cases hblank : Text.isBlankText request.email with
          | true =>
              rw [if_pos ((Text.trim_eq_empty_iff _).mpr hblank), List.nil_append,
                List.countP_cons_of_neg (by simp [haddressed, hblank])]
              exact hconfirmed
          | false =>
              have hemail : Text.trim request.email ≠ "" := by
                rw [Ne, Text.trim_eq_empty_iff, hblank]
                exact Bool.false_ne_true
              rw [if_neg hemail, List.countP_cons_of_pos (by simp [hx, haddressed, hblank]),
                List.singleton_append, List.length_cons, hconfirmed]

/-- The shop has on record what these exchanges have told, and nothing else: each log holds the
entries that belong to the orders that were created. -/
structure Tallied (settings : Settings) (exchanges : List Exchange) (shop : Shop) : Prop where
  charges : ∃ all : List (String × Money),
    all.length = exchanges.countP Exchange.isCreated ∧
    all.map Prod.snd = (createdIn exchanges).map (fun x ↦ x.1.totalCost) ∧
    shop.collaborators.payments.charges.Holds settings.retention all
  shipments : ∃ all : List Shipment,
    all.length = exchanges.countP Exchange.isCreated ∧
    all.map (fun s ↦ (s.name, s.address)) =
      (createdIn exchanges).map (fun x ↦ (x.1.trackingId, x.1.shippingAddress)) ∧
    shop.collaborators.shipping.shipments.Holds settings.retention all
  confirmations : ∃ all : List Confirmation,
    (all.length = exchanges.countP fun x ↦ x.isCreated && x.isAddressed) ∧
    all.Perm (confirmationsOf (createdIn exchanges)) ∧
    shop.collaborators.mail.sent.Holds settings.retention all
  messages : ∃ all : List Message,
    all.length = exchanges.countP Exchange.isCreated * (1 + settings.extraEvents) ∧
    (all.map fun m ↦ m.notice.order).Perm
      ((announcementsOf (1 + settings.extraEvents) (createdIn exchanges)).map some) ∧
    shop.collaborators.broker.messages.Holds settings.retention all
  calls : shop.calls.entries = []
  pending : shop.pending = 0

/-- Each order is announced a number of times. -/
theorem length_announcementsOf (copies : Nat) (orders : List (Order × String)) :
    (announcementsOf copies orders).length = orders.length * copies := by
  induction orders with
  | nil => exact (Nat.zero_mul _).symm
  | cons order rest ih =>
      unfold announcementsOf at ih ⊢
      rw [List.flatMap_cons, List.length_append, ih, List.length_replicate, List.length_cons,
        Nat.succ_mul, Nat.add_comm]

/-- The demonstration shop is steady if confirmations are sent from here and may take some time. -/
theorem isSteady_start (hurl : settings.notificationUrl = none) (spanSeed orderSeed : Nat) :
    (Shop.Demo.start settings spanSeed orderSeed).IsSteady settings where
  conditions_eq := by
    unfold Shop.conditions Shop.Demo.start Shop.Demo.collaborators
    rw [hurl]
    rfl
  ships := rfl
  announces := rfl
  extra_eq := rfl
  isFree := List.forall_mem_nil _
  isLive := Shop.isLive_of_nil rfl

/-- The logs of the demonstration shop are empty at first. -/
theorem retains_start (settings : Settings) (spanSeed orderSeed : Nat) :
    (Shop.Demo.start settings spanSeed orderSeed).Retains settings.retention :=
  ⟨⟨.empty _, .empty _, .empty _, .empty _⟩, rfl⟩

/-- What the orders of a steady shop yield is on record when it has waited for its background. -/
theorem tallied_of_yields {spanSeed orderSeed : Nat} {exchanges : List Exchange} {last : Shop}
    (htold : ∀ x ∈ exchanges, x.IsTold)
    (hyields : (Shop.Demo.start settings spanSeed orderSeed).Yields settings (createdIn exchanges)
      last)
    (hcalls : last.drain.2.calls = .disabled) : Tallied settings exchanges last.drain.2 := by
  obtain ⟨hcreated, hconfirmed⟩ := length_createdIn htold
  have hstores := last.drain_passes.stores_eq
  have hpayments : last.drain.2.collaborators.payments = last.collaborators.payments :=
    (congrArg Collaborators.payments hstores :)
  have hshipping : last.drain.2.collaborators.shipping = last.collaborators.shipping :=
    (congrArg Collaborators.shipping hstores :)
  have hcharges := hyields.charges.exists_holds
  have hshipments := hyields.shipments.exists_holds
  rw [List.length_map, hcreated, ← hpayments] at hcharges
  rw [List.length_map, hcreated, ← hshipping] at hshipments
  obtain ⟨promised, hpromised, hbrings⟩ := hyields.brings
  obtain ⟨sent, messages, hsent, hmessages, hdelivered⟩ :=
    hbrings.trans (Shop.drain_keeps hyields.isSteady.isFree hyields.isSteady.isLive)
  -- All that was promised has been delivered, so the deliveries of either kind are those promised.
  have hall : ↑(sent.map Delivery.confirmed ++
      (messages.map Message.notice).map Delivery.announced) = promised := by
    rw [add_zero, Multiset.coe_add, show (Shop.Demo.start settings spanSeed orderSeed).forecast = 0
      from rfl, zero_add] at hdelivered
    rw [← hdelivered, List.map_map]
    rfl
  obtain ⟨hkept, hkept'⟩ := Delivery.filterMap_delivered sent (messages.map Message.notice)
  have hconfirmations : sent.Perm (confirmationsOf (createdIn exchanges)) := by
    rw [← Multiset.coe_eq_coe, ← hpromised.confirmed, ← hall, Multiset.filterMap_coe, hkept]
  have hannounced : (messages.map fun m ↦ m.notice.order).Perm
      ((announcementsOf (1 + settings.extraEvents) (createdIn exchanges)).map some) := by
    rw [← Multiset.coe_eq_coe, ← hpromised.announced, ← hall, Multiset.filterMap_coe, hkept',
      Multiset.map_coe, List.map_map]
    rfl
  refine ⟨hcharges, hshipments,
    ⟨sent, hconfirmations.length_eq.trans hconfirmed, hconfirmations, ?_⟩,
    ⟨messages, ?_, hannounced, ?_⟩, ?_, ?_⟩
  · rw [hsent]
    exact RetainedLog.holds_foldl_push _ _
  · have hlength := hannounced.length_eq
    rwa [List.length_map, List.length_map, length_announcementsOf, hcreated] at hlength
  · rw [hmessages]
    exact RetainedLog.holds_foldl_push _ _
  · rw [hcalls]
    rfl
  · exact List.length_eq_zero_iff.mpr (Shop.tasks_drain hyields.isSteady.isLive)

/-- To refuse an order is something that happens. -/
theorem refusal_happens (shop : Shop) (error : ServiceError) :
    shop.HappensTo (refusal shop error).2 := by
  unfold refusal
  dsimp only
  split
  · exact .single (.said _)
  · exact .refl

/-- To place the order of a message is something that happens. -/
theorem placeOrder_happens (shop : Shop) (ask : Ask) :
    shop.HappensTo (placeOrder shop ask).2 := by
  unfold placeOrder
  cases readOrder ask with
  | error message => exact refusal_happens shop _
  | ok request =>
      have hplace := shop.place_happens ⟨extract ask.fields, .none⟩ none request
      dsimp only
      generalize shop.place ⟨extract ask.fields, .none⟩ none request = placed at hplace ⊢
      obtain ⟨_ | _ | order, final⟩ := placed
      · exact hplace
      · exact hplace.trans (refusal_happens final _)
      · exact hplace.tail (.said _)

/-- To answer a message is something that happens. -/
theorem answer_happens (shop : Shop) (ask : Ask) : shop.HappensTo (answer shop ask).2 := by
  by_cases horder : ask.method = "POST" ∧ targetPath ask.target = "/orders"
  · rw [answer_eq_placeOrder shop horder.1 horder.2]
    exact placeOrder_happens shop ask
  · rcases (answer_of_other shop horder).2 with hnext | hnext
    · rw [hnext]
    · rw [hnext]
      exact .single (.moved (.rearranged shop.clock shop.tasks 0))

/-- All that is done to a shop happens, one thing after the other. -/
theorem traffic_happens (deeds : List Deed) (shop : Shop) :
    shop.HappensTo (traffic deeds shop).2 := by
  have hdeed : ∀ (deed : Deed) (shop : Shop), shop.HappensTo (deed.run shop).2 := by
    intro deed shop
    cases deed with
    | ask a => exact answer_happens shop a
    | fill user => exact .single (.filled user)
    | divert on => exact .single (.diverted on)
    | wait moment => exact .of_moves (shop.waitUntil_moves moment)
  induction deeds generalizing shop with
  | nil => exact .refl
  | cons deed rest ih => exact (hdeed deed shop).trans (ih _)

/-- Whatever is done to the demonstration shop, at no moment is one of its logs longer than there is
room for, and when the background has come to rest the logs hold exactly what the answers have
told. -/
theorem traffic_is_tallied (settings : Settings) (hurl : settings.notificationUrl = none)
    (htimeout : 0 < settings.followUp.notificationTimeout) (spanSeed orderSeed : Nat)
    (deeds : List Deed) :
    let start := Shop.Demo.start settings spanSeed orderSeed
    let run := traffic deeds start
    (start.HappensTo run.2 ∧ run.2.HappensTo run.2.drain.2 ∧
      ∀ moment, start.HappensTo moment → moment.Retains settings.retention) ∧
    Tallied settings run.1 run.2.drain.2 := by
  intro start run
  have hretains : ∀ moment, start.HappensTo moment → moment.Retains settings.retention :=
    fun moment hmoment ↦ hmoment.retains (retains_start settings spanSeed orderSeed)
  have hhappens : start.HappensTo run.2 := traffic_happens deeds start
  have hdrain : run.2.HappensTo run.2.drain.2 := .of_moves run.2.drain_moves
  obtain ⟨htold, hyields⟩ :=
    traffic_yields (isSteady_start hurl spanSeed orderSeed) htimeout deeds
  exact ⟨⟨hhappens, hdrain, hretains⟩,
    tallied_of_yields htold hyields (hretains _ (hhappens.trans hdrain)).calls⟩

/-- Settings with room for one entry in each log, and three announcements of each order. -/
def crampedSettings : Settings :=
  { Settings.standard with retention := 1, extraEvents := 2 }

/-- A cart that is filled twice is ordered, and charges are diverted from then on. -/
def demoDeeds : List Deed :=
  [.fill Shop.Demo.customer, .ask (orderAsk Shop.demoAddressed), .divert true, .wait 10]

/-- One order is created, and its three announcements do not all fit. -/
theorem demo_traffic_is_tallied :
    let start := Shop.Demo.start crampedSettings 0 0
    let run := traffic demoDeeds start
    run.1.countP Exchange.isCreated = 1 ∧
      (start.HappensTo run.2 ∧ run.2.HappensTo run.2.drain.2 ∧
        ∀ moment, start.HappensTo moment → moment.Retains 1) ∧
      Tallied crampedSettings run.1 run.2.drain.2 := by
  refine ⟨?_, traffic_is_tallied crampedSettings rfl (by decide) 0 0 demoDeeds⟩
  have hplaced : (((Shop.Demo.start crampedSettings 0 0).fillCart Shop.Demo.customer).place
      ⟨extract (orderAsk Shop.demoAddressed).fields, .none⟩ none
        Shop.demoAddressed).1.any Except.isOk = true := rfl
  have hexchanges : (traffic demoDeeds (Shop.Demo.start crampedSettings 0 0)).1 =
      [⟨orderAsk Shop.demoAddressed,
        (answer ((Shop.Demo.start crampedSettings 0 0).fillCart Shop.Demo.customer)
          (orderAsk Shop.demoAddressed)).1⟩] := rfl
  have hread := readOrder_orderAsk Shop.demoAddressed (by decide +kernel)
  rw [hexchanges, answer_eq_placeOrder _ rfl rfl, placeOrder, hread]
  dsimp only
  generalize ((Shop.Demo.start crampedSettings 0 0).fillCart Shop.Demo.customer).place
    ⟨extract (orderAsk Shop.demoAddressed).fields, .none⟩ none Shop.demoAddressed = placed
    at hplaced ⊢
  obtain ⟨_ | _ | order, next⟩ := placed
  · cases hplaced
  · cases hplaced
  · rfl

end Storefront.Http
