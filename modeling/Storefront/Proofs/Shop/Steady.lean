import Storefront.Proofs.Checkout.Failure
import Storefront.Proofs.RetainedLog
import Storefront.Proofs.Shop.Outcome
import Storefront.Proofs.Shop.Promise

/-!
# A shop in which only payments fail

In a steady shop the services behind an order neither fail nor take time, except that charges may be
diverted. There every order that is charged is shipped, and everything that an order promises is
delivered. `Yields` says of two moments which orders were placed in between, in terms of what was
charged, shipped, and promised, and `Places.yields` that placing an order yields that order or
nothing.
-/

namespace Storefront

/-- The conditions under which confirmations and messages are delivered at once. -/
def Conditions.steady (settings : FollowUpSettings) : Conditions where
  settings := settings
  scripted := .none
  remoteMail := none
  mailFails := false
  mailDelay := none
  brokerFails := false
  brokerDelay := none

/-- The confirmations of orders, each of which comes with the address for it or with none. -/
def confirmationsOf (orders : List (Order × String)) : List Confirmation :=
  orders.filterMap fun (order, email) ↦ if email = "" then none else some ⟨email, order⟩

/-- An order with an address has a confirmation. -/
theorem confirmationsOf_cons (order : Order) (email : String) (rest : List (Order × String)) :
    confirmationsOf ((order, email) :: rest) =
      (if email = "" then [] else [⟨email, order⟩]) ++ confirmationsOf rest := by
  by_cases hemail : email = "" <;> simp [confirmationsOf, hemail]

/-- The announcements of orders, each of which is announced a number of times. -/
def announcementsOf (copies : Nat) (orders : List (Order × String)) : List Order :=
  orders.flatMap fun (order, _) ↦ .replicate copies order

/-- `Promises copies orders promised` says that what is promised are the confirmations and the
announcements of these orders. -/
structure Promises (copies : Nat) (orders : List (Order × String))
    (promised : Multiset Delivery) : Prop where
  confirmed : promised.filterMap Delivery.confirmed? = ↑(confirmationsOf orders)
  announced : (promised.filterMap Delivery.announced?).map Notice.order =
    ↑((announcementsOf copies orders).map some)

namespace Promises

variable {copies : Nat} {first rest : List (Order × String)} {promised more : Multiset Delivery}

/-- Where there is no order nothing is promised. -/
theorem nil (copies : Nat) : Promises copies [] 0 :=
  ⟨rfl, rfl⟩

/-- What two lists of orders promise is promised by both together. -/
theorem append (hfirst : Promises copies first promised) (hrest : Promises copies rest more) :
    Promises copies (first ++ rest) (promised + more) where
  confirmed := by
    rw [Multiset.filterMap_add, hfirst.confirmed, hrest.confirmed, Multiset.coe_add]
    exact congrArg _ List.filterMap_append.symm
  announced := by
    rw [Multiset.filterMap_add, Multiset.map_add, hfirst.announced, hrest.announced,
      Multiset.coe_add, ← List.map_append]
    exact congrArg (fun orders : List Order ↦ ((orders.map some : List (Option Order)) :
      Multiset (Option Order))) List.flatMap_append.symm

end Promises

/-- Under steady conditions an order promises its confirmation, if there is an address, and all its
announcements. -/
theorem Conditions.promises_promised {settings : FollowUpSettings}
    (htimeout : 0 < settings.notificationTimeout) (extra : Nat) (origin : Context) (order : Order)
    (email : String) :
    Promises (1 + extra) [(order, email)]
      ((steady settings).promised true extra origin order email) := by
  have hdelay : (steady settings).confirmDelay = 0 := rfl
  have hmail : (if (steady settings).confirmDelay < settings.notificationTimeout then none
      else some Interruption.deadlineExceeded) = none := by
    rw [hdelay, if_pos htimeout]
  have hmessages : (steady settings).announced origin order (1 + extra) =
      ↑(List.replicate (1 + extra) (Delivery.announced (.of settings.topic origin order))) := by
    rw [Multiset.coe_replicate, ← Multiset.nsmul_singleton]
    rfl
  have hpromised : (steady settings).promised true extra origin order email =
      ↑((if email = "" then [] else [Delivery.confirmed ⟨email, order⟩]) ++
        List.replicate (1 + extra) (Delivery.announced (.of settings.topic origin order))) := by
    rw [← Multiset.coe_add, ← hmessages]
    unfold promised
    rw [show (steady settings).settings = settings from rfl, hmail]
    split <;> rfl
  rw [hpromised]
  constructor
  · rw [Multiset.filterMap_coe, List.filterMap_append, List.filterMap_replicate]
    rw [confirmationsOf_cons]
    by_cases hemail : email = "" <;> simp [hemail, Delivery.confirmed?, confirmationsOf]
  · rw [Multiset.filterMap_coe, List.filterMap_append, List.filterMap_replicate]
    unfold announcementsOf
    by_cases hemail : email = "" <;> simp [hemail, Delivery.announced?, Notice.of]

namespace Shop

variable {settings : Settings} {caller : Caller} {abandonAt : Option Nat}
  {shop next final : Shop} {span last : Span}

/-- Orders are shipped, confirmed, and announced in the shop as these settings say, and nothing
fails on the way or takes time. -/
structure IsSteady (settings : Settings) (shop : Shop) : Prop where
  conditions_eq : shop.conditions = .steady settings.followUp
  ships : shop.collaborators.shipping.failsToShip = false
  announces : shop.announces = true
  extra_eq : shop.faults.extra = settings.extraEvents
  isFree : shop.IsFree
  isLive : shop.IsLive

/-- The services of a steady shop answer for themselves. -/
theorem IsSteady.scripted (h : shop.IsSteady settings) : shop.collaborators.scripted = .none :=
  congrArg Conditions.scripted h.conditions_eq

/-- No call changes whether shipping fails. -/
theorem failsToShip_after (c : Collaborators) (call : Call) :
    (c.after call).shipping.failsToShip = c.shipping.failsToShip := by
  unfold Collaborators.after
  split <;> rfl

/-- A shipment is accepted where shipping does not fail and the call has no limits. -/
theorem succeeded_of_call (hscripted : shop.collaborators.scripted = .none)
    (hships : shop.collaborators.shipping.failsToShip = false) (hlimits : caller.limits = .none)
    {address : Address} {lines : List CartLine} {answer : Except CallFailure String}
    (h : shop.call caller abandonAt (.shipOrder address lines) = (some answer, next)) :
    Call.succeeded ⟨.shipOrder address lines, answer⟩ = true := by
  obtain ⟨waiting, hpasses, hsettle⟩ := exists_waiting_of_call h
  have hscripted' : waiting.collaborators.scripted = .none :=
    (congrArg Collaborators.scripted hpasses.stores_eq).trans hscripted
  have hships' : waiting.collaborators.shipping.failsToShip = false := by
    have hshipping : waiting.collaborators.shipping = shop.collaborators.shipping :=
      (congrArg Collaborators.shipping hpasses.stores_eq :)
    rw [hshipping]
    exact hships
  have hreply : (waiting.collaborators.serviceAnswer (.shipOrder address lines)).1 =
      .ok (countedName "TRACK" (waiting.collaborators.shipping.lastNumber + 1).toNat) := by
    unfold Collaborators.serviceAnswer Shipping.ship
    dsimp only
    rw [hships']
    rfl
  obtain ⟨span, heq⟩ :=
    waiting.exists_settle_eq (.shipOrder address lines) (shop.send caller _).1
  rw [heq, answerUnless, shop.interruption_send hlimits] at hsettle
  unfold Shop.answer at hsettle
  rw [Collaborators.answer_eq_serviceAnswer _ hscripted'] at hsettle
  dsimp only at hsettle
  rw [hreply, (Collaborators.accept_countedName _ _).2] at hsettle
  cases hsettle
  rfl

/-- In a conversation without limits no shipment fails where shipping does not. -/
theorem Hosts.ships {events : List Event}
    (h : Hosts caller abandonAt span shop events last final) (hlimits : caller.limits = .none)
    (hscripted : shop.collaborators.scripted = .none)
    (hships : shop.collaborators.shipping.failsToShip = false) :
    ∀ call ∈ callsOf events, call.request.step = .shipOrder → call.succeeded = true := by
  induction h with
  | done => simp
  | @asked span shop request answer next events last final hcall _ ih =>
      have hstores := stores_call hscripted hcall
      have hscripted' : next.collaborators.scripted = .none := by
        show next.collaborators.stores.scripted = .none
        rw [hstores, Collaborators.scripted_after]
        exact hscripted
      have hships' : next.collaborators.shipping.failsToShip = false := by
        show next.collaborators.stores.shipping.failsToShip = false
        rw [hstores, failsToShip_after]
        exact hships
      rw [callsOf_asked, List.forall_mem_cons]
      refine ⟨fun hstep ↦ ?_, ih hscripted' hships'⟩
      cases request with
      | shipOrder => exact succeeded_of_call hscripted hships hlimits hcall
      | getCart | getProduct | getQuote | convert | charge | emptyCart | confirm => cases hstep
  | consulted _ ih => exact ih hscripted hships
  | @noted span shop n _ _ _ _ ih =>
      obtain ⟨-, hcollaborators, -⟩ := shop.note_keeps caller span n
      rw [hcollaborators] at ih
      exact ih hscripted hships

/-- Where shipping does not fail no order fails when it has been charged. -/
theorem Places.step_ne_shipOrder {request : OrderRequest} {events : List Event}
    {error : PlacementError} (hlimits : caller.limits = .none)
    (hscripted : shop.collaborators.scripted = .none)
    (hships : shop.collaborators.shipping.failsToShip = false)
    (h : shop.Places caller abandonAt request events (.error error) final) :
    error.step ≠ .shipOrder := by
  have hfails := (Checkout.conforms h.1).ends.failsAt
  obtain ⟨-, last, closing, hhosts, -⟩ := h
  have hcalls := hhosts.ships hlimits hscripted hships
  generalize error.step = step at hfails
  cases hfails with
  | refused | unpayable => nofun
  | unanswered hlast =>
      intro hstep
      have hsucceeded := hcalls _ (by rw [hlast]; exact List.mem_append_right _ (.head _)) hstep
      cases hsucceeded

/-- `shop.Yields settings orders next` says that between two moments of a steady shop these orders
were placed, each of which comes with the address for its confirmation: they were charged and
shipped one after the other, and what they promise is delivered or forecast. -/
structure Yields (settings : Settings) (shop : Shop) (orders : List (Order × String))
    (next : Shop) : Prop where
  isSteady : next.IsSteady settings
  charges : shop.collaborators.payments.charges.Gains Prod.snd
    (orders.map fun x ↦ x.1.totalCost) next.collaborators.payments.charges
  shipments : shop.collaborators.shipping.shipments.Gains (fun s ↦ (s.name, s.address))
    (orders.map fun x ↦ (x.1.trackingId, x.1.shippingAddress))
    next.collaborators.shipping.shipments
  brings : ∃ promised, Promises (1 + settings.extraEvents) orders promised ∧
    shop.collaborators.Brings (shop.forecast + promised) next.collaborators next.forecast

namespace Yields

variable {orders more : List (Order × String)}

/-- The orders of two stretches are placed in one. -/
theorem trans (hfirst : shop.Yields settings orders next)
    (hrest : next.Yields settings more final) : shop.Yields settings (orders ++ more) final where
  isSteady := hrest.isSteady
  charges := by
    rw [List.map_append]
    exact hfirst.charges.append hrest.charges
  shipments := by
    rw [List.map_append]
    exact hfirst.shipments.append hrest.shipments
  brings := by
    obtain ⟨promised, hpromised, hbrings⟩ := hfirst.brings
    obtain ⟨promised', hpromised', hbrings'⟩ := hrest.brings
    refine ⟨promised + promised', hpromised.append hpromised', ?_⟩
    rw [← add_assoc]
    exact (hbrings.frame promised').trans hbrings'

/-- Where no order is placed, and nothing changes that orders depend on, nothing is yielded. -/
theorem of_keeps (hshop : shop.IsSteady settings) (hkeeps : shop.Keeps 0 next)
    (hlive : next.IsLive) (hannounces : next.announces = shop.announces)
    (hextra : next.faults.extra = shop.faults.extra)
    (hpayments : next.collaborators.payments = shop.collaborators.payments)
    (hshipping : next.collaborators.shipping = shop.collaborators.shipping) :
    shop.Yields settings [] next where
  isSteady :=
    { conditions_eq := hkeeps.conditions_eq.trans hshop.conditions_eq
      ships := by rw [hshipping]; exact hshop.ships
      announces := hannounces.trans hshop.announces
      extra_eq := hextra.trans hshop.extra_eq
      isFree := hkeeps.isFree
      isLive := hlive }
  charges := .of_eq (congrArg Payments.charges hpayments)
  shipments := .of_eq (congrArg Shipping.shipments hshipping)
  brings := ⟨0, .nil _, hkeeps.brings⟩

/-- Where neither collaborators nor tasks are touched nothing is yielded. -/
theorem of_same (hshop : shop.IsSteady settings) (hsettings : next.settings = shop.settings)
    (hcollaborators : next.collaborators = shop.collaborators) (hclock : next.clock = shop.clock)
    (htasks : next.tasks = shop.tasks) (hannounces : next.announces = shop.announces)
    (hextra : next.faults.extra = shop.faults.extra) : shop.Yields settings [] next := by
  have hfree : next.IsFree := by
    rw [IsFree, htasks]
    exact hshop.isFree
  have hconditions : next.conditions = shop.conditions := by
    rw [conditions, conditions, hsettings, hcollaborators]
  have hforecast : next.forecast = shop.forecast := by
    rw [forecast, forecast, hconditions, hclock, htasks]
  have hlive : next.IsLive := by
    rw [IsLive, htasks]
    exact hshop.isLive
  have hkeeps := (Keeps.refl hshop.isFree).settle hconditions hcollaborators hfree hforecast
  exact of_keeps hshop hkeeps hlive hannounces hextra (by rw [hcollaborators])
    (by rw [hcollaborators])

/-- While time passes nothing is yielded. -/
theorem waitUntil (hshop : shop.IsSteady settings) (moment : Nat) :
    shop.Yields settings [] (shop.waitUntil moment) := by
  have hpasses := shop.waitUntil_passes moment
  refine of_keeps hshop (waitUntil_keeps hshop.isFree hshop.isLive moment)
    (waitUntil_isLive hshop.isLive moment) (shop.waitUntil_goes True moment).announces_eq
    (by rw [hpasses.faults_eq]) ?_ ?_
  · exact (congrArg Collaborators.payments hpasses.stores_eq :)
  · exact (congrArg Collaborators.shipping hpasses.stores_eq :)

end Yields

/-- What a shop promises under steady conditions. -/
theorem IsSteady.promises_promises (hshop : shop.IsSteady settings)
    (htimeout : 0 < settings.followUp.notificationTimeout) (origin : Context)
    (orders : List (Order × String)) :
    Promises (1 + settings.extraEvents) orders (shop.promises origin orders) := by
  induction orders with
  | nil => exact .nil _
  | cons order rest ih =>
      have hone := Conditions.promises_promised htimeout settings.extraEvents origin order.1 order.2
      have hpromises : shop.promises origin (order :: rest) =
          (Conditions.steady settings.followUp).promised true settings.extraEvents origin order.1
            order.2 + shop.promises origin rest := by
        rw [← hshop.conditions_eq, ← hshop.announces, ← hshop.extra_eq]
        exact List.sum_cons
      rw [hpromises]
      exact hone.append ih

/-- To place an order in a steady shop yields the order, or nothing if it fails. -/
theorem Places.yields {request : OrderRequest} {events : List Event}
    {result : Except PlacementError Order} (hshop : shop.IsSteady settings)
    (htimeout : 0 < settings.followUp.notificationTimeout) (hlimits : caller.limits = .none)
    (h : shop.Places caller abandonAt request events result final) :
    shop.Yields settings
      (result.toOption.toList.map fun order ↦ (order, Text.trim request.email)) final := by
  have hundertakes := h.undertakes hshop.isFree hshop.isLive
  have hpromises := hshop.promises_promises htimeout
    (caller.context.withParent (shop.openOrder caller request).1.context)
    (result.toOption.toList.map fun order ↦ (order, Text.trim request.email))
  have hextra : final.faults.extra = settings.extraEvents := by
    rw [hundertakes.faults_eq]
    exact hshop.extra_eq
  have hsteady : final.collaborators.shipping.failsToShip = false → final.IsSteady settings :=
    fun hships ↦
      { conditions_eq := hundertakes.keeps.conditions_eq.trans hshop.conditions_eq
        ships := hships
        announces := hundertakes.announces_eq.trans hshop.announces
        extra_eq := hextra
        isFree := hundertakes.keeps.isFree
        isLive := hundertakes.isLive }
  have hbrings := hundertakes.keeps.brings
  cases result with
  | error error =>
      have hstep := h.step_ne_shipOrder hlimits hshop.scripted hshop.ships
      have hstores := (h.settlesFailure hshop.scripted).unchanged hstep
      have hpayments : final.collaborators.payments = shop.collaborators.payments :=
        (congrArg Collaborators.payments hstores :)
      have hshipping : final.collaborators.shipping = shop.collaborators.shipping :=
        (congrArg Collaborators.shipping hstores :)
      refine ⟨hsteady ?_, .of_eq (congrArg Payments.charges hpayments),
        .of_eq (congrArg Shipping.shipments hshipping), _, hpromises, hbrings⟩
      rw [hshipping]
      exact hshop.ships
  | ok order =>
      obtain ⟨valid, -, hsettles⟩ := h.settlesOrder hshop.scripted
      obtain ⟨name, hcharge⟩ := hsettles.charge
      have hshipment := hsettles.shipment
      refine ⟨hsteady ?_, ?_, ?_, _, hpromises, hbrings⟩
      · rw [hshipment]
        exact hshop.ships
      · rw [hcharge]
        exact .push _ _ (name, order.totalCost)
      · rw [hshipment]
        exact .push _ _ (Shipment.mk order.trackingId order.shippingAddress _)

end Shop

end Storefront
