import Storefront.Proofs.Call.Limits
import Storefront.Proofs.Shop.Fulfilment

/-!
# What an order promises

An order that is complete promises to confirm itself and to announce itself, as far as the
conditions let the background deliver that. The time at which it is complete does not matter, and
neither do the limits of its request. `Places.undertakes` says that all that the shop was going to
deliver before an order, and all that the order promises, is delivered or still forecast when the
order is over. This is for shops whose tasks come from orders, `IsReachable`.
-/

namespace Storefront

/-- What comes of the confirmation and the announcements of a complete order. -/
def Conditions.promised (c : Conditions) (announces : Bool) (extra : Nat) (origin : Context)
    (order : Order) (email : String) : Multiset Delivery :=
  (if email = "" then 0
    else
      c.mailed
        (if c.confirmDelay < c.settings.notificationTimeout then none else some .deadlineExceeded)
        c.scripted.confirm.isSome ⟨email, order⟩) +
    if announces then c.announced origin order (1 + extra) else 0

/-- A confirmation is interrupted if it takes as long as it may, whenever it begins. -/
theorem Conditions.confirmInterruption_eq (c : Conditions) (now : Nat) :
    c.confirmInterruption ⟨some (now + c.settings.notificationTimeout), none⟩ now =
      if c.confirmDelay < c.settings.notificationTimeout then none
      else some .deadlineExceeded := by
  unfold confirmInterruption
  have hfirst := Limits.comesFirst_ending ⟨some (now + c.settings.notificationTimeout), none⟩
    (Nat.le_add_right now c.confirmDelay)
  generalize (Limits.fate _ now (some (now + c.confirmDelay))).ending now (now + c.confirmDelay) =
    ending at hfirst ⊢
  have hinstants : Limits.instants ⟨some (now + c.settings.notificationTimeout), none⟩ now
      (now + c.confirmDelay) =
      [(now + c.settings.notificationTimeout, some .deadlineExceeded),
        (now + c.confirmDelay, none)] := by
    unfold Limits.instants
    rw [Option.map_some, Nat.max_eq_right (Nat.le_add_right _ _)]
    rfl
  rw [hinstants] at hfirst
  split
  · rename_i hintime
    have hready : ComesFirst (now + c.confirmDelay, none)
        [(now + c.settings.notificationTimeout, some Interruption.deadlineExceeded),
          (now + c.confirmDelay, none)] :=
      ⟨[_], [], rfl, by simpa using hintime, nofun⟩
    rw [hfirst.unique hready]
  · rename_i hlate
    have hdeadline : ComesFirst
        (now + c.settings.notificationTimeout, some Interruption.deadlineExceeded)
        [(now + c.settings.notificationTimeout, some Interruption.deadlineExceeded),
          (now + c.confirmDelay, none)] :=
      ⟨[], [_], rfl, nofun, by simpa using hlate⟩
    rw [hfirst.unique hdeadline]

/-- What comes of the complete orders of a conversation. -/
def Conditions.promisedIn (c : Conditions) (announces : Bool) (extra : Nat) (origin : Context)
    (completions : List (Order × String)) : Multiset Delivery :=
  (completions.map fun x ↦ c.promised announces extra origin x.1 x.2).sum

namespace Shop

variable {caller : Caller} {abandonAt : Option Nat} {shop next final : Shop} {span last : Span}

/-- What a complete order promises in a shop. -/
def promises (shop : Shop) (origin : Context) (completions : List (Order × String)) :
    Multiset Delivery :=
  shop.conditions.promisedIn shop.announces shop.faults.extra origin completions

/-- `shop.Undertakes promised next` says that between two moments what the shop was going to deliver
and what is promised on the way is delivered or still forecast, and that nothing changes that later
promises depend on. -/
structure Undertakes (shop : Shop) (promised : Multiset Delivery) (next : Shop) : Prop where
  keeps : shop.Keeps promised next
  isLive : next.IsLive
  announces_eq : next.announces = shop.announces
  faults_eq : next.faults = shop.faults

namespace Undertakes

variable {promised more : Multiset Delivery}

/-- Where nothing happens nothing is promised. -/
theorem refl (hfree : shop.IsFree) (hlive : shop.IsLive) : shop.Undertakes 0 shop :=
  ⟨.refl hfree, hlive, rfl, rfl⟩

/-- What is promised in two stretches is promised in one. -/
theorem trans (hfirst : shop.Undertakes promised next) (hsecond : next.Undertakes more final) :
    shop.Undertakes (promised + more) final where
  keeps := hfirst.keeps.trans hsecond.keeps
  isLive := hsecond.isLive
  announces_eq := hsecond.announces_eq.trans hfirst.announces_eq
  faults_eq := hsecond.faults_eq.trans hfirst.faults_eq

/-- Where no task is touched nothing is promised. -/
theorem of_fulfils (h : shop.Fulfils 0 next 0) (hfree : shop.IsFree) (hlive : shop.IsLive)
    (hannounces : next.announces = shop.announces) (hfaults : next.faults = shop.faults) :
    shop.Undertakes 0 next := by
  have hbrings := h.brings.frame shop.forecast
  refine ⟨⟨h.conditions_eq, ?_, ?_⟩, ?_, hannounces, hfaults⟩
  · rw [IsFree, h.tasks_eq]
    exact hfree
  · rw [zero_add] at hbrings
    rw [add_zero, forecast.eq_def next, h.conditions_eq, h.clock_eq, h.tasks_eq]
    exact hbrings
  · rw [IsLive, h.tasks_eq]
    exact hlive

/-- Later promises are what they would have been before. -/
theorem promises_eq (h : shop.Undertakes promised next) : next.promises = shop.promises := by
  unfold promises
  rw [h.keeps.conditions_eq, h.announces_eq, h.faults_eq]

end Undertakes

/-- A call may wait, and promises nothing. -/
theorem waitOrAbandon_undertakes (hfree : shop.IsFree) (hlive : shop.IsLive)
    (abandonAt : Option Nat) (moment : Nat) :
    shop.Undertakes 0 (shop.waitOrAbandon abandonAt moment).2 where
  keeps := by
    unfold waitOrAbandon
    split
    · exact .refl hfree
    · cases abandonAt with
      | none => exact waitUntil_keeps hfree hlive moment
      | some early =>
          dsimp only
          split
          · exact waitUntil_keeps hfree hlive early
          · exact waitUntil_keeps hfree hlive moment
  isLive := (shop.waitOrAbandon_goes True abandonAt moment).2 hlive
  announces_eq := (shop.waitOrAbandon_goes True abandonAt moment).1.announces_eq
  faults_eq := (shop.waitOrAbandon_passes abandonAt moment).faults_eq

/-- The end of any call but that of a confirmation delivers nothing. -/
theorem settle_fulfils (shop : Shop) {request : Request} (hstep : request.step ≠ .sendConfirmation)
    (sent : Sent) : shop.Fulfils 0 (shop.settle request sent).2 0 := by
  obtain ⟨-, htasks, houtbox⟩ := shop.settle_keeps request sent
  obtain ⟨hmail, hbroker⟩ := houtbox hstep
  have hsame : (shop.settle request sent).2.conditions = shop.conditions ∧
      (shop.settle request sent).2.clock = shop.clock := by
    obtain ⟨_, hsettle⟩ := shop.exists_settle_eq request sent
    rw [hsettle]
    unfold answerUnless
    cases sent.interruption with
    | some reason => exact ⟨rfl, rfl⟩
    | none => exact ⟨shop.collaborators.conditions_answer _ _ _, rfl⟩
  exact ⟨hsame.1, hsame.2, htasks, .of_same (by rw [hmail]) (by rw [hbroker]) 0⟩

/-- A call for anything but a confirmation promises nothing, whether it is abandoned or not. -/
theorem call_undertakes (caller : Caller) (abandonAt : Option Nat) (hfree : shop.IsFree)
    (hlive : shop.IsLive) {request : Request} (hstep : request.step ≠ .sendConfirmation) :
    shop.Undertakes 0 (shop.call caller abandonAt request).2 := by
  have hsend := Undertakes.of_fulfils (shop.send_fulfils caller request 0) hfree hlive
    (shop.send_goes True caller request).announces_eq (shop.send_serves caller request 0).faults_eq
  have hwait := hsend.trans (waitOrAbandon_undertakes hsend.keeps.isFree hsend.isLive abandonAt
    (shop.send caller request).1.time)
  unfold call
  dsimp only
  generalize (shop.send caller request).2.waitOrAbandon abandonAt _ = waited at hwait ⊢
  obtain ⟨goesOn, waiting⟩ := waited
  split
  · have hsettle := Undertakes.of_fulfils
      (waiting.settle_fulfils hstep (shop.send caller request).1) hwait.keeps.isFree hwait.isLive
      (waiting.settle_goes True caller.context hstep _).announces_eq
      (waiting.settle_keeps request _).1
    exact hwait.trans hsettle
  · have hgiveUp : waiting.Undertakes 0 (waiting.finishSpan (shop.send caller request).1.span) :=
      .of_fulfils (.of_same 0 rfl rfl rfl rfl) hwait.keeps.isFree hwait.isLive rfl rfl
    exact hwait.trans hgiveUp

/-- A task that is started is forecast. -/
theorem startTask_undertakes (hfree : shop.IsFree) (hlive : shop.IsLive) {task : Task}
    (htask : task.IsFree) (hfresh : task.due? = none) :
    shop.Undertakes (task.forecast shop.conditions shop.clock) (shop.startTask task) where
  keeps := by
    refine ⟨rfl, ?_, ?_⟩
    · rw [IsFree, startTask, List.forall_mem_append, List.forall_mem_singleton]
      exact ⟨hfree, htask⟩
    · have hforecast : (shop.startTask task).forecast =
          shop.forecast + task.forecast shop.conditions shop.clock := by
        show forecastOf shop.conditions shop.clock (shop.tasks ++ [task]) = _
        rw [forecastOf_append, forecastOf_cons, forecastOf_nil, add_zero]
        rfl
      rw [hforecast]
      exact .of_same rfl rfl _
  isLive := (shop.startTask_goes True hfresh).2 hlive
  announces_eq := rfl
  faults_eq := rfl

/-- An order that is complete promises its confirmation and its announcements. -/
theorem followUp_undertakes (hfree : shop.IsFree) (hlive : shop.IsLive) {place : SpanContext}
    (hplace : caller.context.parent = some place) (hvalid : place.isValid = true) (order : Order)
    (email : String) :
    shop.Undertakes
      (shop.conditions.promised shop.announces shop.faults.extra caller.context order email)
      (shop.followUp caller order email) := by
  have hreap : shop.Undertakes 0 shop.reap :=
    .of_fulfils (.of_same 0 rfl rfl rfl rfl) hfree hlive rfl rfl
  have hconfirm : shop.Undertakes
      (if email = "" then 0 else shop.conditions.mailed
        (if shop.conditions.confirmDelay < shop.conditions.settings.notificationTimeout then none
          else some .deadlineExceeded) shop.conditions.scripted.confirm.isSome ⟨email, order⟩)
      (shop.reap.startConfirmation caller.detached order email) := by
    unfold startConfirmation
    split
    · exact .of_fulfils (.of_same 0 rfl rfl rfl rfl) hfree hlive rfl rfl
    · have htask : (Task.confirmation
          (caller.detached.withDeadline (shop.clock + shop.settings.notificationTimeout))
          ⟨email, order⟩ none).IsFree := trivial
      have hstart := startTask_undertakes hreap.keeps.isFree hreap.isLive htask rfl
      rw [← shop.conditions.confirmInterruption_eq shop.clock, ← zero_add (Conditions.mailed ..)]
      exact hreap.trans hstart
  have hannounce : (shop.reap.startConfirmation caller.detached order email).Undertakes
      (if shop.announces then
        shop.conditions.announced caller.context order (1 + shop.faults.extra) else 0)
      (shop.followUp caller order email) := by
    unfold followUp
    dsimp only
    generalize shop.reap.startConfirmation caller.detached order email = confirming at hconfirm ⊢
    unfold startAnnouncement
    rw [hconfirm.announces_eq, hconfirm.faults_eq, ← hconfirm.keeps.conditions_eq]
    split
    · have htask : (Task.announcement caller.detached order (1 + shop.faults.extra) none).IsFree :=
        ⟨rfl, place, hplace, hvalid⟩
      exact startTask_undertakes hconfirm.keeps.isFree hconfirm.isLive htask rfl
    · exact .refl hconfirm.keeps.isFree hconfirm.isLive
  exact hconfirm.trans hannounce

/-- A note promises something if it says that an order is complete. -/
theorem note_undertakes (hfree : shop.IsFree) (hlive : shop.IsLive) {place : SpanContext}
    (hplace : caller.context.parent = some place) (hvalid : place.isValid = true) (span : Span)
    (n : Note) :
    shop.Undertakes (shop.promises caller.context (Event.noted n).completion?.toList)
      (shop.note caller span n).2 := by
  match n with
  | .completed order email =>
      have hone : shop.promises caller.context [(order, email)] =
          shop.conditions.promised shop.announces shop.faults.extra caller.context order email :=
        List.sum_singleton
      show shop.Undertakes (shop.promises caller.context [(order, email)]) _
      rw [hone]
      exact followUp_undertakes hfree hlive hplace hvalid order email
  | .attribute .. | .event .. | .line _ | .progress .. | .setback _ =>
      exact .of_fulfils (.of_same 0 rfl rfl rfl rfl) hfree hlive rfl rfl

/-- Promises of complete orders add up. -/
theorem promises_append (shop : Shop) (origin : Context) (first rest : List (Order × String)) :
    shop.promises origin (first ++ rest) =
      shop.promises origin first + shop.promises origin rest := by
  unfold promises Conditions.promisedIn
  rw [List.map_append, List.sum_append]

/-- A conversation promises what its complete orders do. -/
theorem Hosts.undertakes {place : SpanContext} (hplace : caller.context.parent = some place)
    (hvalid : place.isValid = true) {events : List Event}
    (horderly : ∀ event ∈ events, event.IsOrderly) (hfree : shop.IsFree) (hlive : shop.IsLive)
    (h : Hosts caller abandonAt span shop events last final) :
    shop.Undertakes (shop.promises caller.context (completionsOf events)) final := by
  induction h with
  | done => exact .refl hfree hlive
  | @asked span shop request answer next events last final hcall _ ih =>
      obtain ⟨hasked, horderly⟩ := List.forall_mem_cons.mp horderly
      have hfirst : shop.Undertakes 0 next := by
        have hundertakes := call_undertakes caller abandonAt hfree hlive hasked
        rwa [hcall] at hundertakes
      have hall := hfirst.trans (ih horderly hfirst.keeps.isFree hfirst.isLive)
      rw [hfirst.promises_eq, zero_add] at hall
      exact hall
  | consulted _ ih => exact ih (List.forall_mem_cons.mp horderly).2 hfree hlive
  | @noted span shop n events last final _ ih =>
      obtain ⟨-, horderly⟩ := List.forall_mem_cons.mp horderly
      have hnote := note_undertakes hfree hlive hplace hvalid span n
      have hall := hnote.trans (ih horderly hnote.keeps.isFree hnote.isLive)
      have hcompletions : completionsOf (.noted n :: events) =
          (Event.noted n).completion?.toList ++ completionsOf events := by
        unfold completionsOf
        rw [List.filterMap_cons]
        cases (Event.noted n).completion? <;> rfl
      rw [hnote.promises_eq, ← promises_append, ← hcompletions] at hall
      exact hall

/-- The span of an order is valid. -/
theorem isValid_openOrder (shop : Shop) (caller : Caller) (request : OrderRequest) :
    (shop.openOrder caller request).1.context.isValid = true := by
  have hbegins : (shop.openOrder caller request).1.Begins "PlaceOrder" .server
      caller.context.parent :=
    (shop.tracer.start_begins _ _ _).of_grows (.setAttributes _ _)
  exact hbegins.isValid

/-- The start of an order promises nothing. -/
theorem openOrder_undertakes (hfree : shop.IsFree) (hlive : shop.IsLive) (caller : Caller)
    (request : OrderRequest) : shop.Undertakes 0 (shop.openOrder caller request).2 :=
  .of_fulfils (.of_same 0 rfl rfl rfl rfl) hfree hlive rfl rfl

/-- An order that is placed promises its confirmation and its announcements, and any other one
promises nothing. -/
theorem Places.undertakes {request : OrderRequest} {events : List Event}
    {result : Except PlacementError Order} (hfree : shop.IsFree) (hlive : shop.IsLive)
    (h : shop.Places caller abandonAt request events result final) :
    shop.Undertakes
      (shop.promises (caller.context.withParent (shop.openOrder caller request).1.context)
        (result.toOption.toList.map fun order ↦ (order, Text.trim request.email))) final := by
  have hconforms := Checkout.conforms h.1
  obtain ⟨-, last, closing, hhosts, rfl⟩ := h
  have hopen := openOrder_undertakes hfree hlive caller request
  have hconverse := hhosts.undertakes rfl (shop.isValid_openOrder caller request)
    hconforms.isOrderly hopen.keeps.isFree hopen.isLive
  have hclose : closing.Undertakes 0 (closing.closeOrder last result) := by
    cases result <;>
      exact .of_fulfils (.of_same 0 rfl rfl rfl rfl) hconverse.keeps.isFree hconverse.isLive rfl rfl
  have hall := (hopen.trans hconverse).trans hclose
  rw [hopen.promises_eq, zero_add, add_zero, hconforms.completionsOf_eq] at hall
  exact hall

/-- `IsReachable shop` says that the tasks of a shop come from orders: from a shop without tasks it
has been reached while orders were placed or abandoned, time passed, and the background was counted
or waited for. Anything but the tasks may have been changed in between. -/
inductive IsReachable : Shop → Prop where
  | idle {shop : Shop} : shop.tasks = [] → IsReachable shop
  | placed {shop : Shop} (caller : Caller) (abandonAt : Option Nat) (request : OrderRequest) :
      IsReachable shop → IsReachable (shop.place caller abandonAt request).2
  | changed {shop next : Shop} :
      IsReachable shop → next.tasks = shop.tasks → IsReachable next
  | waited {shop : Shop} (moment : Nat) : IsReachable shop → IsReachable (shop.waitUntil moment)
  | counted {shop : Shop} : IsReachable shop → IsReachable shop.reap
  | drained {shop : Shop} : IsReachable shop → IsReachable shop.drain.2

/-- However an order ends, its announcements are free and its tasks live. -/
theorem isFree_place (hfree : shop.IsFree) (hlive : shop.IsLive) (caller : Caller)
    (abandonAt : Option Nat) (request : OrderRequest) :
    (shop.place caller abandonAt request).2.IsFree ∧
      (shop.place caller abandonAt request).2.IsLive := by
  rcases hplace : shop.place caller abandonAt request with ⟨_ | result, final⟩
  · obtain ⟨events, pending, hhalts, last, waiting, closing, hhosts, hcall, rfl⟩ :=
      exists_abandons hplace
    obtain ⟨rest, value, hplays⟩ := hhalts.exists_plays
    have horderly := (Checkout.conforms hplays).isOrderly
    rw [List.forall_mem_append, List.forall_mem_cons] at horderly
    have hopen := openOrder_undertakes hfree hlive caller request
    have hconverse := hhosts.undertakes rfl (shop.isValid_openOrder caller request) horderly.1
      hopen.keeps.isFree hopen.isLive
    have hlast := call_undertakes
      (caller.withParent (shop.openOrder caller request).1.context) abandonAt
      hconverse.keeps.isFree hconverse.isLive horderly.2.1
    rw [hcall] at hlast
    exact ⟨hlast.keeps.isFree, hlast.isLive⟩
  · obtain ⟨events, hplaces⟩ := place_eq_some_iff.mp hplace
    have hundertakes := hplaces.undertakes hfree hlive
    exact ⟨hundertakes.keeps.isFree, hundertakes.isLive⟩

/-- In a shop that can be reached all announcements are free and all tasks live. -/
theorem IsReachable.isFree (h : IsReachable shop) : shop.IsFree ∧ shop.IsLive := by
  induction h with
  | idle htasks =>
      rw [IsFree, IsLive, htasks]
      exact ⟨List.forall_mem_nil _, List.forall_mem_nil _⟩
  | placed caller abandonAt request _ ih => exact isFree_place ih.1 ih.2 caller abandonAt request
  | changed _ htasks ih =>
      rw [IsFree, IsLive, htasks]
      exact ih
  | waited moment _ ih => exact ⟨(waitUntil_keeps ih.1 ih.2 moment).isFree, waitUntil_isLive ih.2 _⟩
  | counted _ ih => exact ih
  | drained _ ih =>
      rw [IsFree, IsLive, tasks_drain ih.2]
      exact ⟨List.forall_mem_nil _, List.forall_mem_nil _⟩

end Shop

end Storefront
