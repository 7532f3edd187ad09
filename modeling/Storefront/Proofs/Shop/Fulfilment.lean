import Storefront.Proofs.Shop.Forecast

/-!
# What was forecast is delivered

What the background of a shop has delivered and what is forecast of its tasks are together the same
at every moment, `Keeps`. There is one lemma for each function of the background, from a single
answer up to `waitUntil_keeps` and `drain_keeps`: when no task is left, exactly what was forecast
has been delivered.
-/

namespace Storefront

namespace Shop

/-- What decides whether the background of a shop delivers. -/
def conditions (shop : Shop) : Conditions :=
  shop.collaborators.conditions shop.settings

/-- `shop.Fulfils forecast next left` says that between two moments the conditions, the time, and
the tasks that wait stay as they are, and that what was forecast is delivered or left. -/
structure Fulfils (shop : Shop) (forecast : Multiset Delivery) (next : Shop)
    (left : Multiset Delivery) : Prop where
  conditions_eq : next.conditions = shop.conditions
  clock_eq : next.clock = shop.clock
  tasks_eq : next.tasks = shop.tasks
  brings : shop.collaborators.Brings forecast next.collaborators left

namespace Fulfils

variable {shop next last : Shop} {forecast left rest : Multiset Delivery}

/-- Nothing is delivered where the collaborators stay as they are. -/
theorem of_same (forecast : Multiset Delivery) (hsettings : next.settings = shop.settings)
    (hcollaborators : next.collaborators = shop.collaborators) (hclock : next.clock = shop.clock)
    (htasks : next.tasks = shop.tasks) : shop.Fulfils forecast next forecast := by
  refine ⟨?_, hclock, htasks, .of_same ?_ ?_ _⟩
  · rw [conditions, conditions, hsettings, hcollaborators]
  · rw [hcollaborators]
  · rw [hcollaborators]

/-- Two stretches of work make up one. -/
theorem trans (hfirst : shop.Fulfils forecast next left) (hsecond : next.Fulfils left last rest) :
    shop.Fulfils forecast last rest where
  conditions_eq := hsecond.conditions_eq.trans hfirst.conditions_eq
  clock_eq := hsecond.clock_eq.trans hfirst.clock_eq
  tasks_eq := hsecond.tasks_eq.trans hfirst.tasks_eq
  brings := hfirst.brings.trans hsecond.brings

/-- What is forecast besides is left. -/
theorem frame (h : shop.Fulfils forecast next left) (extra : Multiset Delivery) :
    shop.Fulfils (forecast + extra) next (left + extra) :=
  { h with brings := h.brings.frame extra }

end Fulfils

/-- A call is heard beside all else. -/
theorem hear_fulfils (shop : Shop) (request : Request) (context : Context)
    (forecast : Multiset Delivery) :
    shop.Fulfils forecast (shop.hear request context) forecast := by
  unfold hear
  split <;> exact .of_same forecast rfl rfl rfl rfl

/-- Nothing has been delivered when a call starts. -/
theorem send_fulfils (shop : Shop) (caller : Caller) (request : Request)
    (forecast : Multiset Delivery) :
    shop.Fulfils forecast (shop.send caller request).2 forecast := by
  unfold send
  dsimp only
  split
  · refine Fulfils.trans ?_ (hear_fulfils _ _ _ forecast)
    exact .of_same forecast rfl rfl rfl rfl
  · exact .of_same forecast rfl rfl rfl rfl

/-- A confirmation whose call is over is delivered if the conditions say so. -/
theorem settle_confirm_fulfils (shop : Shop) (mail : Confirmation) (sent : Sent) :
    shop.Fulfils (shop.conditions.mailed sent.interruption sent.isScripted mail)
      (shop.settle (.confirm mail) sent).2 0 := by
  have hanswer : shop.Fulfils (shop.conditions.mailed sent.interruption sent.isScripted mail)
      (shop.answerUnless (.confirm mail) sent).2 0 := by
    unfold answerUnless
    cases sent.interruption with
    | some reason => exact .of_same 0 rfl rfl rfl rfl
    | none =>
        exact ⟨shop.collaborators.conditions_answer _ _ _, rfl, rfl,
          shop.collaborators.brings_answer_confirm shop.settings mail sent.isScripted⟩
  obtain ⟨span, hsettle⟩ := shop.exists_settle_eq (.confirm mail) sent
  rw [hsettle]
  exact hanswer.trans (.of_same 0 rfl rfl rfl rfl)

/-- The end of a confirmation delivers it if the conditions say so. -/
theorem endConfirmation_fulfils (shop : Shop) (mail : Confirmation) (sent : Sent) :
    shop.Fulfils (shop.conditions.mailed sent.interruption sent.isScripted mail)
      (shop.endConfirmation mail sent) 0 := by
  have hsettle := shop.settle_confirm_fulfils mail sent
  unfold endConfirmation
  rcases h : shop.settle (.confirm mail) sent with ⟨_ | _, next⟩
  · rw [h] at hsettle
    exact hsettle.trans (.of_same 0 rfl rfl rfl rfl)
  · rw [h] at hsettle
    exact hsettle.trans (.of_same 0 rfl rfl rfl rfl)

/-- The start of a confirmation delivers it, or it waits and is still forecast. -/
theorem confirm_fulfils (shop : Shop) (caller : Caller) (mail : Confirmation) :
    shop.Fulfils ((Task.confirmation caller mail none).forecast shop.conditions shop.clock)
      (shop.confirm caller mail).2
      (forecastOf shop.conditions shop.clock (shop.confirm caller mail).1.toList) := by
  have hsend := shop.send_fulfils caller (.confirm mail)
    ((Task.confirmation caller mail none).forecast shop.conditions shop.clock)
  have hend := endConfirmation_fulfils (shop.send caller (.confirm mail)).2 mail
    (shop.send caller (.confirm mail)).1
  rw [hsend.conditions_eq] at hend
  unfold confirm
  dsimp only
  split
  · rw [Option.toList_some, forecastOf_cons, forecastOf_nil, add_zero]
    exact hsend
  · exact hsend.trans hend

/-- A message that need not be waited for any longer is delivered if the conditions say so. -/
theorem endCopy_fulfils (shop : Shop) (sent : Sent × Message) :
    shop.Fulfils
      (shop.conditions.accepted sent.1.interruption sent.1.isScripted sent.2.notice)
      (shop.endCopy sent) 0 := by
  have hdeliver : shop.Fulfils
      (shop.conditions.accepted sent.1.interruption sent.1.isScripted sent.2.notice)
      (shop.deliverUnless sent.2 sent.1).2 0 := by
    unfold deliverUnless
    cases sent.1.interruption with
    | some reason => exact .of_same 0 rfl rfl rfl rfl
    | none =>
        exact ⟨shop.collaborators.conditions_send _ _ _, rfl, rfl,
          shop.collaborators.brings_send shop.settings sent.2 sent.1.isScripted⟩
  unfold endCopy endAnnouncement
  rcases h : shop.deliverUnless sent.2 sent.1 with ⟨_ | _, _⟩
  · rw [h] at hdeliver
    exact hdeliver.trans (.of_same 0 rfl rfl rfl rfl)
  · rw [h] at hdeliver
    exact hdeliver.trans (.of_same 0 rfl rfl rfl rfl)

/-- Only its own time limit interrupts an announcement without limits. -/
theorem interruption_beginAnnouncement (shop : Shop) {caller : Caller}
    (hlimits : caller.limits = .none) (order : Order) :
    (shop.beginAnnouncement caller order).1.1.interruption = shop.conditions.sendInterruption := by
  have hinterruption : (shop.beginAnnouncement caller order).1.1.interruption =
      (orTimeout (shop.clock + shop.settings.publishTimeout)
        ((caller.limits.fate shop.clock (some (shop.clock + shop.collaborators.sendDelay))).ending
          shop.clock (shop.clock + shop.collaborators.sendDelay))).2 := rfl
  have hdelay : shop.collaborators.sendDelay = shop.conditions.sendDelay := rfl
  have htimeout : shop.settings.publishTimeout = shop.conditions.settings.publishTimeout := rfl
  rw [hinterruption, hlimits, fate_none, hdelay, htimeout]
  unfold orTimeout Fate.ending Conditions.sendInterruption
  by_cases hle : shop.conditions.sendDelay ≤ shop.conditions.settings.publishTimeout
  · rw [if_pos hle, if_pos (Nat.add_le_add_left hle shop.clock)]
  · rw [if_neg hle, if_neg fun h ↦ hle (Nat.le_of_add_le_add_left h)]

/-- The message of an announcement gives the notice of its order. -/
theorem notice_beginAnnouncement (shop : Shop) {caller : Caller} {place : SpanContext}
    (hplace : caller.context.parent = some place) (hvalid : place.isValid = true) (order : Order) :
    (shop.beginAnnouncement caller order).1.2.notice =
      .of shop.settings.topic caller.context order := by
  have hbegins : (shop.beginAnnouncement caller order).1.1.span.Begins
      (shop.settings.topic ++ " publish") .producer caller.context.parent :=
    (shop.tracer.start_begins _ _ _).of_grows (.setAttributes _ _)
  have hpayload : Decoder.document PlacedEvent.decoder
      (shop.beginAnnouncement caller order).1.2.payload = .ok ⟨order, .ofMillis shop.clock⟩ :=
    PlacedEvent.document_text _
  have hcarries : (extract (shop.beginAnnouncement caller order).1.2.headers).Carries
      (shop.beginAnnouncement caller order).1.1.span.context caller.context.baggage :=
    (Carrier.isFaithful_recordHeaders.arrives _).carries hbegins.isValid
  obtain ⟨⟨received, hreceived, -, htrace, -, hsampled⟩, hbaggage⟩ := hcarries
  obtain ⟨htrace', hsampled'⟩ := hbegins.follows place hplace hvalid
  unfold Message.notice Notice.of
  rw [hpayload, hreceived, hbaggage, hplace, Option.map_some, Option.map_some, htrace, hsampled,
    htrace', hsampled']
  rfl

/-- When an announcement begins, what is going to come of it is settled. -/
theorem beginAnnouncement_fulfils (shop : Shop) {caller : Caller} (hlimits : caller.limits = .none)
    {place : SpanContext} (hplace : caller.context.parent = some place)
    (hvalid : place.isValid = true) (order : Order) (forecast : Multiset Delivery) :
    shop.Fulfils forecast (shop.beginAnnouncement caller order).2 forecast ∧
      shop.conditions.accepted (shop.beginAnnouncement caller order).1.1.interruption
          (shop.beginAnnouncement caller order).1.1.isScripted
          (shop.beginAnnouncement caller order).1.2.notice =
        shop.conditions.announced caller.context order 1 := by
  refine ⟨.of_same forecast rfl rfl rfl rfl, ?_⟩
  have hscripted : (shop.beginAnnouncement caller order).1.1.isScripted =
      shop.conditions.scripted.send.isSome := rfl
  rw [shop.interruption_beginAnnouncement hlimits, shop.notice_beginAnnouncement hplace hvalid,
    hscripted]
  exact (one_nsmul _).symm

/-- Announcements are delivered one after the other, and the others are still forecast. -/
theorem announceAll_fulfils (shop : Shop) {caller : Caller} (hlimits : caller.limits = .none)
    {place : SpanContext} (hplace : caller.context.parent = some place)
    (hvalid : place.isValid = true) (order : Order) (copies : Nat) :
    shop.Fulfils (shop.conditions.announced caller.context order copies)
      (shop.announceAll caller order copies).2
      (forecastOf shop.conditions shop.clock (shop.announceAll caller order copies).1.toList) := by
  induction copies generalizing shop with
  | zero =>
      have hnone : shop.conditions.announced caller.context order 0 = 0 := zero_nsmul _
      rw [hnone]
      exact .of_same 0 rfl rfl rfl rfl
  | succ copies ih =>
      obtain ⟨hbegin, haccepted⟩ := shop.beginAnnouncement_fulfils hlimits hplace hvalid order
        (shop.conditions.announced caller.context order (copies + 1))
      have hsucc : shop.conditions.announced caller.context order (copies + 1) =
          shop.conditions.announced caller.context order 1 +
            shop.conditions.announced caller.context order copies := by
        unfold Conditions.announced
        rw [succ_nsmul', one_nsmul]
      unfold announceAll
      dsimp only
      split
      -- The one that waits is settled, and the others have not begun.
      · rw [Option.toList_some, forecastOf_cons, forecastOf_nil, add_zero, Task.forecast, haccepted,
          Nat.add_sub_cancel, ← hsucc]
        exact hbegin
      · have hend := endCopy_fulfils (shop.beginAnnouncement caller order).2
          (shop.beginAnnouncement caller order).1
        rw [hbegin.conditions_eq, haccepted] at hend
        have hfirst := hend.frame (shop.conditions.announced caller.context order copies)
        rw [zero_add, ← hsucc] at hfirst
        have hrest := ih (endCopy (shop.beginAnnouncement caller order).2
          (shop.beginAnnouncement caller order).1)
        have hboth := hbegin.trans hfirst
        rw [hboth.conditions_eq, hboth.clock_eq] at hrest
        exact hboth.trans hrest

/-- A task that goes on delivers what is forecast, and the rest is still forecast. -/
theorem resume_fulfils (shop : Shop) {task : Task} (hfree : task.IsFree) :
    shop.Fulfils (task.forecast shop.conditions shop.clock) (shop.resume task).2
        (forecastOf shop.conditions shop.clock (shop.resume task).1.toList) := by
  match task with
  | .confirmation caller mail none => exact shop.confirm_fulfils caller mail
  | .confirmation _ mail (some sent) => exact shop.endConfirmation_fulfils mail sent
  | .announcement caller order copies none =>
      obtain ⟨hlimits, place, hplace, hvalid⟩ := hfree
      exact shop.announceAll_fulfils hlimits hplace hvalid order copies
  | .announcement caller order copies (some sent) =>
      obtain ⟨hlimits, place, hplace, hvalid⟩ := hfree
      have hend := (shop.endCopy_fulfils sent).frame
        (shop.conditions.announced caller.context order (copies - 1))
      rw [zero_add] at hend
      have hrest := announceAll_fulfils (shop.endCopy sent) hlimits hplace hvalid order (copies - 1)
      rw [hend.conditions_eq, hend.clock_eq] at hrest
      exact hend.trans hrest

/-- A task that goes on stays free. -/
theorem isFree_resume (shop : Shop) {task : Task} (hfree : task.IsFree) :
    ∀ left ∈ (shop.resume task).1, left.IsFree := by
  have hall : ∀ (caller : Caller) (order : Order) (copies : Nat) (shop : Shop),
      (Task.announcement caller order copies none).IsFree →
      ∀ left ∈ (shop.announceAll caller order copies).1, left.IsFree := by
    intro caller order copies shop h
    induction copies generalizing shop with
    | zero => exact fun _ hleft ↦ absurd hleft (Option.not_mem_none _)
    | succ copies ih =>
        unfold announceAll
        dsimp only
        split
        · rintro _ ⟨⟩
          exact h
        · exact ih _ h
  cases task with
  | confirmation caller mail sent =>
      cases sent with
      | none =>
          unfold resume confirm
          dsimp only
          split
          · rintro _ ⟨⟩
            exact trivial
          · exact fun _ hleft ↦ absurd hleft (Option.not_mem_none _)
      | some sent => exact fun _ hleft ↦ absurd hleft (Option.not_mem_none _)
  | announcement caller order copies sent =>
      cases sent with
      | none => exact hall caller order copies shop hfree
      | some sent => exact hall caller order (copies - 1) (shop.endCopy sent) hfree

/-- All announcements of the shop are free. -/
def IsFree (shop : Shop) : Prop :=
  ∀ task ∈ shop.tasks, task.IsFree

/-- What the tasks of a shop are going to deliver. -/
def forecast (shop : Shop) : Multiset Delivery :=
  forecastOf shop.conditions shop.clock shop.tasks

/-- `shop.Keeps extra next` says that between two moments the conditions stay as they are and all
announcements stay free, and that what was forecast of the tasks and of what is in hand is delivered
or forecast. -/
structure Keeps (shop : Shop) (extra : Multiset Delivery) (next : Shop) : Prop where
  conditions_eq : next.conditions = shop.conditions
  isFree : next.IsFree
  brings : shop.collaborators.Brings (shop.forecast + extra) next.collaborators next.forecast

namespace Keeps

variable {shop next last : Shop} {extra more : Multiset Delivery}

/-- Where nothing happens everything is still forecast. -/
theorem refl (h : shop.IsFree) : shop.Keeps 0 shop := by
  refine ⟨rfl, h, ?_⟩
  rw [add_zero]
  exact .of_same rfl rfl _

/-- What is in hand at the start of either of two stretches may be in hand before both. -/
theorem trans (hfirst : shop.Keeps extra next) (hsecond : next.Keeps more last) :
    shop.Keeps (extra + more) last := by
  refine ⟨hsecond.conditions_eq.trans hfirst.conditions_eq, hsecond.isFree, ?_⟩
  rw [← add_assoc]
  exact (hfirst.brings.frame more).trans hsecond.brings

/-- What counts of a shop is what is forecast of it, and what its collaborators have. -/
theorem rebase {base : Shop} (h : base.Keeps extra next)
    (hconditions : base.conditions = shop.conditions)
    (hcollaborators : base.collaborators = shop.collaborators)
    (hforecast : base.forecast + extra = shop.forecast + more) : shop.Keeps more next := by
  refine ⟨h.conditions_eq.trans hconditions, h.isFree, ?_⟩
  rw [← hforecast, ← hcollaborators]
  exact h.brings

/-- Nothing is delivered afterwards where the collaborators stay as they are. -/
theorem settle (h : shop.Keeps extra next) (hconditions : last.conditions = next.conditions)
    (hcollaborators : last.collaborators = next.collaborators) (hfree : last.IsFree)
    (hforecast : last.forecast = next.forecast) : shop.Keeps extra last := by
  refine ⟨hconditions.trans h.conditions_eq, hfree, ?_⟩
  rw [hcollaborators, hforecast]
  exact h.brings

end Keeps

/-- A task that goes on delivers what is forecast, and is kept if it is not over. -/
theorem run_keeps (shop : Shop) (h : shop.IsFree) {task : Task} (hfree : task.IsFree) :
    shop.Keeps (task.forecast shop.conditions shop.clock) (shop.run task) ∧
      (shop.run task).clock = shop.clock := by
  have hfulfils := shop.resume_fulfils hfree
  have hisFree : (shop.run task).IsFree := by
    rw [IsFree, tasks_run, List.forall_mem_append]
    exact ⟨h, fun left hleft ↦ shop.isFree_resume hfree left (Option.mem_toList.mp hleft)⟩
  have hsame : (shop.run task).conditions = (shop.resume task).2.conditions ∧
      (shop.run task).clock = (shop.resume task).2.clock ∧
      (shop.run task).collaborators = (shop.resume task).2.collaborators := by
    unfold run
    rcases shop.resume task with ⟨_ | _, _⟩ <;> exact ⟨rfl, rfl, rfl⟩
  obtain ⟨hconditions, hclock, hcollaborators⟩ := hsame
  rw [hfulfils.conditions_eq] at hconditions
  rw [hfulfils.clock_eq] at hclock
  refine ⟨⟨hconditions, hisFree, ?_⟩, hclock⟩
  have hforecast : (shop.run task).forecast =
      forecastOf shop.conditions shop.clock (shop.resume task).1.toList + shop.forecast := by
    rw [forecast, hconditions, hclock, tasks_run, forecastOf_append, add_comm]
    rfl
  rw [hcollaborators, hforecast, add_comm shop.forecast]
  exact hfulfils.brings.frame shop.forecast

/-- Tasks that go on one after the other deliver what is forecast of them. -/
theorem foldl_run_keeps (tasks : List Task) (shop : Shop) (h : shop.IsFree)
    (hfree : ∀ task ∈ tasks, task.IsFree) :
    shop.Keeps (forecastOf shop.conditions shop.clock tasks) (tasks.foldl run shop) ∧
      (tasks.foldl run shop).clock = shop.clock := by
  induction tasks generalizing shop with
  | nil => exact ⟨.refl h, rfl⟩
  | cons task rest ih =>
      obtain ⟨htask, hrest⟩ := List.forall_mem_cons.mp hfree
      obtain ⟨hrun, hclock⟩ := shop.run_keeps h htask
      obtain ⟨hfold, hclock'⟩ := ih _ hrun.isFree hrest
      rw [hrun.conditions_eq, hclock] at hfold
      rw [forecastOf_cons]
      exact ⟨hrun.trans hfold, hclock'.trans hclock⟩

/-- Tasks that begin deliver what is forecast of them. -/
theorem runFresh_keeps {shop : Shop} (h : shop.IsFree) :
    shop.Keeps 0 shop.runFresh ∧ shop.runFresh.clock = shop.clock := by
  have hperm := List.filter_append_perm (fun t : Task ↦ t.due?.isSome) shop.tasks
  obtain ⟨hkeeps, hclock⟩ := foldl_run_keeps (shop.tasks.filter fun t ↦ !t.due?.isSome)
    { shop with tasks := shop.tasks.filter fun t ↦ t.due?.isSome }
    (fun task htask ↦ h task (List.mem_of_mem_filter htask))
    (fun task htask ↦ h task (List.mem_of_mem_filter htask))
  unfold runFresh
  rw [List.partition_eq_filter_filter]
  refine ⟨⟨hkeeps.conditions_eq, hkeeps.isFree, ?_⟩, hclock⟩
  have hforecast : shop.forecast + 0 =
      forecast { shop with tasks := shop.tasks.filter fun t ↦ t.due?.isSome } +
        forecastOf shop.conditions shop.clock (shop.tasks.filter fun t ↦ !t.due?.isSome) := by
    rw [add_zero, forecast, ← forecastOf_perm _ _ hperm, forecastOf_append]
    rfl
  rw [hforecast]
  exact hkeeps.brings

/-- The task that goes on first delivers what is forecast of it, if no time passes or all tasks
wait. -/
theorem runFirst_keeps {shop : Shop} {due : Nat} {task : Task} {others : List Task}
    (h : shop.IsFree) (hfirst : Task.earliest? shop.tasks = some (due, task, others))
    (hstill : due ≤ shop.clock ∨ ∀ task ∈ shop.tasks, task.Waits) :
    shop.Keeps 0 (run { shop with clock := max shop.clock due, tasks := others } task) ∧
      (run { shop with clock := max shop.clock due, tasks := others } task).clock =
        max shop.clock due := by
  have hperm := perm_of_earliest? hfirst
  have htask : task.due?.isSome = true := by rw [Task.due?_of_earliest? hfirst]; rfl
  obtain ⟨hfree, hfree'⟩ := List.forall_mem_cons.mp fun t ht ↦ h t (hperm.mem_iff.mpr ht)
  obtain ⟨hrun, hclock⟩ :=
    run_keeps { shop with clock := max shop.clock due, tasks := others } hfree' hfree
  -- Either the time stays as it is, or no task looks at it.
  have hothers : forecastOf shop.conditions (max shop.clock due) others =
      forecastOf shop.conditions shop.clock others := by
    rcases hstill with hnow | hwaits
    · rw [max_eq_left hnow]
    · refine forecastOf_of_waits _ _ (fun t ht ↦ ?_) _
      exact (hwaits t (hperm.mem_iff.mpr (List.mem_cons_of_mem _ ht))).1
  have hforecast : forecastOf shop.conditions (max shop.clock due) others +
      task.forecast shop.conditions (max shop.clock due) = shop.forecast + 0 := by
    rw [hothers, Task.forecast_of_waits htask _ _ shop.clock, add_zero, forecast,
      forecastOf_perm _ _ hperm, forecastOf_cons, add_comm]
  exact ⟨hrun.rebase rfl rfl hforecast, hclock⟩

/-- Waiting tasks that go on in the order of their times deliver what is forecast of them, if no
time passes or all tasks wait. -/
theorem runDue_keeps (isDue : Nat → Bool) (steps : Nat) {shop : Shop} (h : shop.IsFree)
    (hstill : (∀ due, isDue due = true → due ≤ shop.clock) ∨ ∀ task ∈ shop.tasks, task.Waits) :
    shop.Keeps 0 (runDue isDue steps shop) ∧
      ((∀ due, isDue due = true → due ≤ shop.clock) →
        (runDue isDue steps shop).clock = shop.clock) := by
  induction steps generalizing shop with
  | zero => exact ⟨.refl h, fun _ ↦ rfl⟩
  | succ steps ih =>
      unfold runDue
      split
      · exact ⟨.refl h, fun _ ↦ rfl⟩
      · rename_i due task others hfirst
        split
        · rename_i hdue
          obtain ⟨hrun, hclock⟩ :=
            runFirst_keeps h hfirst (hstill.imp_left fun hnow ↦ hnow due hdue)
          have hothers : (∀ task ∈ shop.tasks, task.Waits) → ∀ t ∈ others, t.Waits :=
            fun hwaits t ht ↦
              hwaits t ((perm_of_earliest? hfirst).mem_iff.mpr (List.mem_cons_of_mem _ ht))
          have hwaits' : (∀ task ∈ shop.tasks, task.Waits) → ∀ t ∈
              (run { shop with clock := max shop.clock due, tasks := others } task).tasks,
              t.Waits :=
            fun hwaits ↦ forall_tasks_run (fun _ ↦ id) (hothers hwaits) task
          dsimp only
          generalize run { shop with clock := max shop.clock due, tasks := others } task = next
            at hrun hclock hwaits' ⊢
          have hlater : shop.clock ≤ next.clock := hclock ▸ Nat.le_max_left _ _
          obtain ⟨hrest, hclock'⟩ := ih hrun.isFree
            (hstill.imp (fun hnow due' hdue' ↦ (hnow due' hdue').trans hlater) hwaits')
          have hboth := hrun.trans hrest
          rw [add_zero] at hboth
          refine ⟨hboth, fun hnow ↦ ?_⟩
          rw [hclock' fun due' hdue' ↦ (hnow due' hdue').trans hlater, hclock,
            max_eq_left (hnow due hdue)]
        · exact ⟨.refl h, fun _ ↦ rfl⟩

/-- Tasks that can go on without time passing deliver what is forecast of them. -/
theorem settleDown_keeps {shop : Shop} (h : shop.IsFree) :
    shop.Keeps 0 shop.settleDown ∧ shop.settleDown.clock = shop.clock := by
  have hnow : ∀ due, decide (due ≤ shop.clock) = true → due ≤ shop.clock :=
    fun _ ↦ of_decide_eq_true
  obtain ⟨hdue, hclock⟩ := runDue_keeps (· ≤ shop.clock) shop.work h (.inl hnow)
  obtain ⟨hfresh, hclock'⟩ := runFresh_keeps hdue.isFree
  have hboth := hdue.trans hfresh
  rw [add_zero] at hboth
  exact ⟨hboth, hclock'.trans (hclock hnow)⟩

/-- When all tasks wait that can, time may pass. -/
theorem pass_keeps {shop : Shop} (h : shop.IsFree) (hlive : shop.IsLive) (isDue : Nat → Bool) :
    shop.Keeps 0 (shop.settleDown.runWhile isDue) ∧
      ∀ task ∈ (shop.settleDown.runWhile isDue).tasks, task.Waits := by
  obtain ⟨hsettle, -⟩ := settleDown_keeps h
  have hwaits := settleDown_waits hlive
  obtain ⟨hdue, -⟩ := runDue_keeps isDue shop.settleDown.work hsettle.isFree (.inr hwaits)
  have hboth := hsettle.trans hdue
  rw [add_zero] at hboth
  exact ⟨hboth, forall_tasks_runDue (fun _ ↦ id) isDue _ hwaits⟩

/-- While time passes the tasks deliver what is forecast of them. -/
theorem waitUntil_keeps {shop : Shop} (h : shop.IsFree) (hlive : shop.IsLive) (moment : Nat) :
    shop.Keeps 0 (shop.waitUntil moment) := by
  unfold waitUntil
  split
  · exact .refl h
  · obtain ⟨hkeeps, hwaits⟩ := pass_keeps h hlive (· < moment)
    refine hkeeps.settle rfl rfl hkeeps.isFree ?_
    exact forecastOf_of_waits _ _ (fun task htask ↦ (hwaits task htask).1) _

/-- When a shop has waited for its background all that was forecast has been delivered. -/
theorem drain_keeps {shop : Shop} (h : shop.IsFree) (hlive : shop.IsLive) :
    shop.collaborators.Brings shop.forecast shop.drain.2.collaborators 0 := by
  have hkeeps : shop.Keeps 0 shop.drain.2 := by
    unfold drain
    dsimp only
    split
    · exact (Keeps.refl h).settle rfl rfl h rfl
    · obtain ⟨hkeeps, -⟩ := pass_keeps h hlive fun _ ↦ true
      exact hkeeps.settle rfl rfl hkeeps.isFree rfl
  have hbrings := hkeeps.brings
  rwa [add_zero, forecast.eq_def shop.drain.2, tasks_drain hlive, forecastOf_nil] at hbrings

end Shop

end Storefront
