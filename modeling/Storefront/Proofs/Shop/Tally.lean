import Storefront.Proofs.Checkout.Milestones
import Storefront.Proofs.Shop.History
import Storefront.Proofs.Shop.Moves

/-!
# The metrics agree with what happened

`Trades shop trades last` says that a shop becomes `last` while orders are placed one after another,
each in a conversation that is kept. A placement measures what its result and its conversation say,
`Places.tallies`, and calls and the background measure nothing of the kind, `Moves.tallies`. They
count every failure of an announcement under two names and every delivery once with its message,
which is kept as `IsTallied`. So the metrics of a shop that had none can be told from its trades and
from the broker, `Trades.metrics_agree`.
-/

namespace Storefront

namespace Measurement

/-- The measurement is about an order, and not about what follows it. -/
def isOfOrders : Measurement → Bool
  | .orderBegun | .orderFailed _ | .orderTimed | .stepFailed .emptyCart => true
  | .stepFailed _ | .eventDelivered | .eventFailed => false

/-- What is about orders is not among what is not, nor the other way. -/
theorem count_eq_zero {taken : List Measurement} {b : Bool} (h : ∀ m ∈ taken, m.isOfOrders = b)
    {m : Measurement} (hm : m.isOfOrders ≠ b) : taken.count m = 0 :=
  List.count_eq_zero.mpr fun hmem ↦ hm (h m hmem)

end Measurement

/-- What an event of a conversation measures: the failure of a step that does not fail the order. -/
def Event.measured? : Event → Option Measurement
  | .noted (.setback error) => some (.stepFailed error.step)
  | .asked _ | .consulted _ | .noted _ => none

/-- What a conversation measures, in order. -/
def measuredIn (events : List Event) : List Measurement :=
  events.filterMap Event.measured?

/-- A placement that has come to its end: the request, what was said, and the result. -/
structure Trade where
  request : OrderRequest
  events : List Event
  result : Except PlacementError Order

namespace Trade

/-- The step at which the placement failed, if it did. -/
def failure? (t : Trade) : Option Step :=
  match t.result with
  | .ok _ => none
  | .error error => some error.step

/-- The order was placed, but its cart was not emptied. -/
def leavesCart (t : Trade) : Bool :=
  t.result.isOk && Checkout.leavesCart t.events

/-- What is measured of a placement. -/
def measurements (t : Trade) : List Measurement :=
  [.orderBegun, .orderTimed] ++ (t.failure?.map .orderFailed).toList ++
    if t.leavesCart then [.stepFailed .emptyCart] else []

end Trade

namespace Checkout

variable {id : OrderId} {request : OrderRequest} {events : List Event}

/-- Plain events measure nothing. -/
theorem measuredIn_of_isPlain (h : ∀ event ∈ events, event.IsPlain) : measuredIn events = [] := by
  refine List.filterMap_eq_nil_iff.mpr fun event hevent ↦ ?_
  have hplain := h event hevent
  match event with
  | .asked _ | .consulted _ => rfl
  | .noted (.setback _) => exact hplain.elim
  | .noted (.attribute ..) | .noted (.event ..) | .noted (.line _) | .noted (.progress ..)
  | .noted (.completed ..) => rfl

/-- A checkout measures a cart that was not emptied, if the order was placed. -/
theorem Conforms.measuredIn_eq {result : Except PlacementError Order}
    (h : Conforms id request events result) :
    measuredIn events =
      if (⟨request, events, result⟩ : Trade).leavesCart then [.stepFailed .emptyCart] else [] := by
  cases result with
  | error error => exact measuredIn_of_isPlain h.isPlain
  | ok order =>
      cases h with
      | @placed valid total plan diverted transaction tracking answer =>
          have hshipped := measuredIn_of_isPlain
            (isPlain_toShipment plan id total diverted transaction (.ok tracking))
          have hleft : (⟨request, toEnd plan id total diverted transaction tracking answer,
              .ok (plan.order id total tracking)⟩ : Trade).leavesCart = !answer.isOk := by
            rw [Trade.leavesCart, leavesCart_toEnd]
            rfl
          rw [hleft]
          unfold toEnd
          rw [measuredIn, List.filterMap_append, List.filterMap_append, List.filterMap_append,
            ← measuredIn, hshipped]
          cases answer <;> rfl

end Checkout

namespace Shop

variable {caller : Caller} {abandonAt : Option Nat} {shop next last final : Shop}

/-- The metrics of announcements agree with one another and with the broker. -/
structure IsTallied (shop : Shop) : Prop where
  scripted : shop.collaborators.scripted = .none
  failed : shop.metrics.count (.stepFailed .publishEvent) = shop.metrics.count .eventFailed
  delivered : shop.metrics.count .eventDelivered = shop.collaborators.broker.messages.total

/-- What is not about announcements leaves a shop tallied. -/
theorem IsTallied.of_measured (h : shop.IsTallied) {taken : List Measurement}
    (hmetrics : next.metrics = taken ++ shop.metrics)
    (htaken : ∀ m ∈ taken, m.isOfOrders = true)
    (hcollaborators : next.collaborators = shop.collaborators) : next.IsTallied := by
  have hcount : ∀ m : Measurement, m.isOfOrders = false →
      next.metrics.count m = shop.metrics.count m := by
    intro m hm
    rw [hmetrics, List.count_append, Measurement.count_eq_zero htaken (by simp [hm]),
      Nat.zero_add]
  refine ⟨by rw [hcollaborators, h.scripted], ?_, ?_⟩
  · rw [hcount _ rfl, hcount _ rfl, h.failed]
  · rw [hcount _ rfl, hcollaborators, h.delivered]

/-- `shop.Tallies measured later` says what has become of the metrics of a shop: what was measured
of orders is new, and announcements are as they should be if they were. -/
structure Tallies (shop : Shop) (measured : List Measurement) (later : Shop) : Prop where
  count_eq (m : Measurement) : m.isOfOrders = true →
    later.metrics.count m = shop.metrics.count m + measured.count m
  isTallied : shop.IsTallied → later.IsTallied

namespace Tallies

variable {first rest : List Measurement}

/-- Nothing need be measured. -/
theorem refl (shop : Shop) : shop.Tallies [] shop :=
  ⟨fun _ _ ↦ rfl, id⟩

/-- What is measured first and what is measured then. -/
theorem trans (h : shop.Tallies first next) (h' : next.Tallies rest last) :
    shop.Tallies (first ++ rest) last where
  count_eq m hm := by rw [h'.count_eq m hm, h.count_eq m hm, List.count_append, Nat.add_assoc]
  isTallied hshop := h'.isTallied (h.isTallied hshop)

/-- Measurements about orders are taken at once, and nobody answers. -/
theorem of_measured {taken : List Measurement} (hmetrics : next.metrics = taken ++ shop.metrics)
    (htaken : ∀ m ∈ taken, m.isOfOrders = true)
    (hcollaborators : next.collaborators = shop.collaborators) : shop.Tallies taken next where
  count_eq m _ := by rw [hmetrics, List.count_append, Nat.add_comm]
  isTallied hshop := hshop.of_measured hmetrics htaken hcollaborators

end Tallies

/-- What the background measures at once is not about orders, and a failure of an announcement is
counted under both names. -/
theorem spec_of_mem_backgroundMeasurements : ∀ taken ∈ backgroundMeasurements,
    (∀ m ∈ taken, m.isOfOrders = false) ∧
      taken.count (.stepFailed .publishEvent) = taken.count .eventFailed := by
  decide

/-- A move measures nothing of orders, and announcements stay as they should be. -/
theorem Moves.tallies (h : shop.Moves next) : shop.Tallies [] next := by
  obtain ⟨-, ⟨taken, htaken, hmetrics⟩, hmessages⟩ := h.leaves
  obtain ⟨hothers, hfailures⟩ := spec_of_mem_backgroundMeasurements taken htaken
  refine ⟨fun m hm ↦ ?_, fun hshop ↦ ?_⟩
  · rw [hmetrics, List.count_append, Measurement.count_eq_zero hothers (by simp [hm]),
      Nat.zero_add]
    rfl
  · obtain ⟨hscripted, hdelivered⟩ := hmessages hshop.scripted
    refine ⟨hscripted, ?_, ?_⟩
    · rw [hmetrics, List.count_append, List.count_append, hfailures, hshop.failed]
    · have hbefore := hshop.delivered
      omega

/-- Moves measure nothing of orders. -/
theorem MovesTo.tallies (h : shop.MovesTo next) : shop.Tallies [] next := by
  induction h with
  | refl => exact .refl shop
  | tail _ hlast ih => exact ih.trans hlast.tallies

/-- A note measures the failure that it is about, if that is of a step of the order. -/
theorem note_tallies (shop : Shop) (caller : Caller) (span : Span) {n : Note}
    (horderly : (Event.noted n).IsOrderly) :
    shop.Tallies (Event.noted n).measured?.toList (shop.note caller span n).2 := by
  match n with
  | .attribute .. | .event .. | .line _ | .progress .. => exact .of_measured rfl nofun rfl
  | .setback error =>
      have hstep : error.step = .emptyCart := horderly
      have htaken : ∀ m ∈ [Measurement.stepFailed error.step], m.isOfOrders = true := by
        rw [List.forall_mem_singleton, hstep]
        rfl
      exact .of_measured rfl htaken rfl
  | .completed order email =>
      obtain ⟨tasks, heq⟩ := shop.followUp_eq caller order email
      show shop.Tallies [] (shop.followUp caller order email)
      rw [heq]
      exact .of_measured rfl nofun rfl

/-- A conversation measures the failures that it notes. -/
theorem Hosts.tallies {span last : Span} {events : List Event}
    (horderly : ∀ event ∈ events, event.IsOrderly)
    (h : Hosts caller abandonAt span shop events last final) :
    shop.Tallies (measuredIn events) final := by
  induction h with
  | done => exact .refl _
  | @asked span shop request answer next events last final hcall _ ih =>
      have hmoves := shop.call_moves caller abandonAt request
      rw [hcall] at hmoves
      exact hmoves.tallies.trans (ih (List.forall_mem_cons.mp horderly).2)
  | consulted _ ih => exact ih (List.forall_mem_cons.mp horderly).2
  | @noted span shop n events last final _ ih =>
      obtain ⟨hnoted, hrest⟩ := List.forall_mem_cons.mp horderly
      have hboth := (shop.note_tallies caller span hnoted).trans (ih hrest)
      have hmeasured : measuredIn (.noted n :: events) =
          (Event.noted n).measured?.toList ++ measuredIn events := by
        unfold measuredIn
        rw [List.filterMap_cons]
        cases (Event.noted n).measured? <;> rfl
      rw [hmeasured]
      exact hboth

/-- A placement measures that it began and how it ended, and a cart that was not emptied. -/
theorem Places.tallies {request : OrderRequest} {events : List Event}
    {result : Except PlacementError Order}
    (h : shop.Places caller abandonAt request events result final) :
    shop.Tallies (⟨request, events, result⟩ : Trade).measurements final := by
  have hconforms := Checkout.conforms h.1
  obtain ⟨-, last, closing, hhosts, rfl⟩ := h
  have hopening : shop.Tallies [.orderBegun] (shop.openOrder caller request).2 :=
    .of_measured rfl (by simp [Measurement.isOfOrders]) rfl
  have hhosted := hhosts.tallies hconforms.isOrderly
  rw [hconforms.measuredIn_eq] at hhosted
  have hclosing : closing.Tallies
      (.orderTimed :: ((⟨request, events, result⟩ : Trade).failure?.map .orderFailed).toList)
      (closing.closeOrder last result) := by
    cases result with
    | ok order => exact .of_measured rfl (by simp [Trade.failure?, Measurement.isOfOrders]) rfl
    | error error => exact .of_measured rfl (by simp [Trade.failure?, Measurement.isOfOrders]) rfl
  have hall := (hopening.trans hhosted).trans hclosing
  refine ⟨fun m hm ↦ ?_, hall.isTallied⟩
  rw [hall.count_eq m hm]
  unfold Trade.measurements
  simp only [List.count_append, List.count_cons, List.count_nil]
  omega

/-- `Trades shop trades last` says that a shop becomes `last` while orders are placed one after
another, each to its end. In between there may be changes, time may pass, and the background may be
counted or waited for. -/
inductive Trades : Shop → List Trade → Shop → Prop where
  | rest {shop : Shop} : Trades shop [] shop
  | placed {shop : Shop} {caller : Caller} {abandonAt : Option Nat} {request : OrderRequest}
      {events : List Event} {result : Except PlacementError Order} {next : Shop}
      {trades : List Trade} {last : Shop} :
      shop.Places caller abandonAt request events result next → Trades next trades last →
      Trades shop (⟨request, events, result⟩ :: trades) last
  | changed {shop next : Shop} {trades : List Trade} {last : Shop} :
      shop.Changes next → Trades next trades last → Trades shop trades last
  | waited {shop : Shop} {moment : Nat} {trades : List Trade} {last : Shop} :
      Trades (shop.waitUntil moment) trades last → Trades shop trades last
  | counted {shop : Shop} {trades : List Trade} {last : Shop} :
      Trades shop.reap trades last → Trades shop trades last
  | drained {shop : Shop} {trades : List Trade} {last : Shop} :
      Trades shop.drain.2 trades last → Trades shop trades last

variable {trades : List Trade}

/-- Changes measure nothing. -/
theorem Changes.tallies (h : shop.Changes next) : shop.Tallies [] next := by
  have hmetrics : next.metrics = shop.metrics := (congrArg metrics h.eq :)
  refine ⟨fun m _ ↦ by rw [hmetrics]; rfl, fun hshop ↦ ⟨h.scripted, ?_, ?_⟩⟩
  · rw [hmetrics, hshop.failed]
  · rw [hmetrics, h.messages, hshop.delivered]

/-- What is measured while orders are placed is what is measured of each. -/
theorem Trades.tallies (h : Trades shop trades last) :
    shop.Tallies (trades.flatMap Trade.measurements) last := by
  induction h with
  | rest => exact .refl _
  | placed hplaces _ ih => exact hplaces.tallies.trans ih
  | changed hchanges _ ih => exact hchanges.tallies.trans ih
  | @waited shop moment _ _ _ ih => exact (shop.waitUntil_moves moment).tallies.trans ih
  | @counted shop _ _ _ ih =>
      have hreap : shop.MovesTo shop.reap := .single (.rearranged shop.clock shop.tasks 0)
      exact hreap.tallies.trans ih
  | @drained shop _ _ _ ih => exact shop.drain_moves.tallies.trans ih

end Shop

/-- What is measured of a trade once or not at all is measured as often as there are trades of which
it is. -/
theorem count_measurements {m : Measurement} {p : Trade → Bool}
    (h : ∀ t : Trade, t.measurements.count m = if p t then 1 else 0) (trades : List Trade) :
    (trades.flatMap Trade.measurements).count m = trades.countP p := by
  induction trades with
  | nil => rfl
  | cons t rest ih =>
      rw [List.flatMap_cons, List.count_append, h, ih, List.countP_cons]
      omega

namespace Trade

variable (t : Trade)

/-- A placement has a step at which it failed exactly if it failed. -/
theorem isSome_failure? : t.failure?.isSome = !t.result.isOk := by
  unfold failure?
  cases t.result <;> rfl

/-- A placement begins once and is timed once. -/
theorem count_once :
    t.measurements.count .orderBegun = 1 ∧ t.measurements.count .orderTimed = 1 := by
  unfold measurements
  cases t.failure? <;> cases t.leavesCart <;> exact ⟨rfl, rfl⟩

/-- A placement that failed is counted under its step. -/
theorem count_orderFailed (step : Step) :
    t.measurements.count (.orderFailed step) = if t.failure? = some step then 1 else 0 := by
  unfold measurements
  cases t.failure? <;> cases t.leavesCart <;> simp [List.count_cons]

/-- A cart that is left is counted. -/
theorem count_emptyCart :
    t.measurements.count (.stepFailed .emptyCart) = if t.leavesCart then 1 else 0 := by
  unfold measurements
  cases t.failure? <;> cases t.leavesCart <;> rfl

end Trade

/-- Every placement that failed did so at one step. -/
theorem sum_countP_failure? (trades : List Trade) :
    (Step.all.map fun step ↦ trades.countP fun t ↦ t.failure? = some step).sum =
      trades.countP fun t ↦ !t.result.isOk := by
  have hone : ∀ failure : Option Step, (Step.all.map fun step ↦
      if failure = some step then 1 else 0).sum = if failure.isSome then 1 else 0 := by
    intro failure
    cases failure with
    | none => rfl
    | some step => cases step <;> rfl
  induction trades with
  | nil => rfl
  | cons t rest ih =>
      simp only [List.countP_cons, decide_eq_true_eq, List.sum_map_add]
      rw [ih, hone, t.isSome_failure?]

/-- The metrics are those of the trades, with so many messages at the broker. -/
structure Metrics.AgreeWith (metrics : Metrics) (trades : List Trade) (messages : Nat) : Prop where
  /-- Every order is counted when it begins. -/
  begun : metrics.count .orderBegun = trades.length
  /-- Every order is timed when it ends. -/
  timed : metrics.count .orderTimed = trades.length
  /-- A failure is counted under the step that its error names. -/
  failed (step : Step) : metrics.count (.orderFailed step) =
    trades.countP fun t ↦ t.failure? = some step
  /-- All failures together are the orders that failed. -/
  failures : (Step.all.map fun step ↦ metrics.count (.orderFailed step)).sum =
    trades.countP fun t ↦ !t.result.isOk
  /-- A cart that was not emptied is counted if the order was placed. -/
  carts : metrics.count (.stepFailed .emptyCart) = trades.countP Trade.leavesCart
  /-- An announcement that failed is counted under two names. -/
  unannounced : metrics.count (.stepFailed .publishEvent) = metrics.count .eventFailed
  /-- An announcement that was delivered is a message. -/
  announced : metrics.count .eventDelivered = messages

namespace Shop

variable {shop last : Shop} {trades : List Trade}

/-- What the metrics tell of orders is what the trades tell, if there was nothing measured before,
and what they tell of announcements is what the broker tells. -/
theorem Tallies.agree (h : shop.Tallies (trades.flatMap Trade.measurements) last)
    (hmetrics : shop.metrics = []) (hshop : shop.IsTallied) :
    last.metrics.AgreeWith trades last.collaborators.broker.messages.total := by
  have hcount : ∀ {m : Measurement} {p : Trade → Bool}, m.isOfOrders = true →
      (∀ t : Trade, t.measurements.count m = if p t then 1 else 0) →
      last.metrics.count m = trades.countP p := by
    intro m p hm hp
    rw [h.count_eq m hm, hmetrics, List.count_nil, Nat.zero_add, count_measurements hp]
  have hfailed : ∀ step, last.metrics.count (.orderFailed step) =
      trades.countP fun t ↦ t.failure? = some step := by
    intro step
    refine hcount rfl fun t ↦ ?_
    simp only [t.count_orderFailed, decide_eq_true_eq]
  have hlast := h.isTallied hshop
  refine ⟨?_, ?_, hfailed, ?_, hcount rfl Trade.count_emptyCart, hlast.failed, hlast.delivered⟩
  · rw [hcount (p := fun _ ↦ true) rfl fun t ↦ t.count_once.1, List.countP_true]
  · rw [hcount (p := fun _ ↦ true) rfl fun t ↦ t.count_once.2, List.countP_true]
  · rw [funext hfailed, sum_countP_failure?]

/-- When the background has come to rest after orders have been placed, in a shop that had measured
nothing and sent no message and whose services answer for themselves, the metrics agree with what
happened. -/
theorem Trades.metrics_agree (hscripted : shop.collaborators.scripted = .none)
    (hmetrics : shop.metrics = []) (hmessages : shop.collaborators.broker.messages.total = 0)
    (h : Trades shop trades last) :
    last.drain.2.metrics.AgreeWith trades last.drain.2.collaborators.broker.messages.total := by
  have hshop : shop.IsTallied :=
    ⟨hscripted, by rw [hmetrics]; rfl, by rw [hmetrics, hmessages]; rfl⟩
  have hall := h.tallies.trans last.drain_moves.tallies
  rw [List.append_nil] at hall
  exact hall.agree hmetrics hshop

/-- The metrics of the demonstration shop agree with the order that it places. -/
theorem demo_metrics_agree : ∃ order events next,
    (Demo.start .standard 0 0).Places .background none demoAddressed events (.ok order) next ∧
      next.drain.2.metrics.AgreeWith [⟨demoAddressed, events, .ok order⟩]
        next.drain.2.collaborators.broker.messages.total := by
  obtain ⟨order, next, hplace⟩ := exists_place_demoAddressed
  obtain ⟨events, hplaces⟩ := place_eq_some_iff.mp hplace
  exact ⟨order, events, next, hplaces, Trades.metrics_agree rfl rfl rfl (.placed hplaces .rest)⟩

end Shop

end Storefront
