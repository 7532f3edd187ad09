import Storefront.Proofs.Shop.Alike
import Storefront.Proofs.Shop.Rest

/-!
# Waits in a row

A wait up to one moment and then up to a later one is a wait up to the later one,
`waitUntil_waitUntil`: what waits goes on at its own times, however often somebody looks. `RunsOn`
is the loop that lets waiting tasks go on without a number of steps, and `runsOn_runWhile` says that
the loop of a shop has steps enough.
-/

namespace Storefront.Shop

variable {shop middle last other : Shop} {isDue isDue' : Nat → Bool} {moment : Nat}

/-! ## The time -/

/-- No time passes at the end of a call. -/
theorem clock_settle (shop : Shop) (request : Request) (sent : Sent) :
    (shop.settle request sent).2.clock = shop.clock := by
  obtain ⟨span, hsettle⟩ := shop.exists_settle_eq request sent
  rw [hsettle]
  unfold answerUnless
  cases sent.interruption <;> rfl

/-- No time passes at the end of a confirmation. -/
theorem clock_endConfirmation (shop : Shop) (confirmation : Confirmation) (sent : Sent) :
    (shop.endConfirmation confirmation sent).clock = shop.clock := by
  have hsettle := shop.clock_settle (.confirm confirmation) sent
  unfold endConfirmation
  generalize shop.settle (.confirm confirmation) sent = settled at hsettle ⊢
  obtain ⟨_ | _, next⟩ := settled <;> exact hsettle

/-- No time passes at the end of an announcement. -/
theorem clock_endCopy (shop : Shop) (sent : Sent × Message) :
    (shop.endCopy sent).clock = shop.clock := by
  have hdeliver : (shop.deliverUnless sent.2 sent.1).2.clock = shop.clock := by
    unfold deliverUnless
    cases sent.1.interruption <;> rfl
  unfold endCopy endAnnouncement
  generalize shop.deliverUnless sent.2 sent.1 = delivered at hdeliver ⊢
  obtain ⟨_ | _, next⟩ := delivered <;> exact hdeliver

/-- No time passes while announcements begin and end. -/
theorem clock_announceAll (shop : Shop) (caller : Caller) (order : Order) (copies : Nat) :
    (shop.announceAll caller order copies).2.clock = shop.clock := by
  induction copies generalizing shop with
  | zero => rfl
  | succ copies ih =>
      unfold announceAll
      dsimp only
      split
      · rfl
      · exact (ih _).trans (clock_endCopy _ _)

/-- No time passes when a call starts. -/
theorem clock_send (shop : Shop) (caller : Caller) (request : Request) :
    (shop.send caller request).2.clock = shop.clock :=
  (congrArg Shop.clock (shop.bare_send caller request).1 :)

/-- No time passes while a task begins or goes on. -/
theorem clock_run (shop : Shop) (task : Task) : (shop.run task).clock = shop.clock := by
  have hresume : (shop.resume task).2.clock = shop.clock := by
    match task with
    | .confirmation caller confirmation none =>
        unfold resume confirm
        dsimp only
        split
        · exact shop.clock_send caller _
        · exact (clock_endConfirmation _ _ _).trans (shop.clock_send caller _)
    | .confirmation _ confirmation (some sent) => exact shop.clock_endConfirmation confirmation sent
    | .announcement caller order copies none => exact shop.clock_announceAll caller order copies
    | .announcement caller order copies (some sent) =>
        exact (clock_announceAll _ caller order (copies - 1)).trans (shop.clock_endCopy sent)
  unfold run
  generalize shop.resume task = resumed at hresume ⊢
  obtain ⟨_ | _, next⟩ := resumed <;> exact hresume

/-- While tasks go on whose times have come by a moment, it does not get later than that. -/
theorem clock_runDue_le {steps : Nat} (hnow : shop.clock ≤ moment)
    (hdue : ∀ due, isDue due = true → due ≤ moment) :
    (runDue isDue steps shop).clock ≤ moment := by
  induction steps generalizing shop with
  | zero => exact hnow
  | succ steps ih =>
      unfold runDue
      split
      · exact hnow
      · split
        · rename_i due task others _ hcome
          refine ih ?_
          rw [clock_run]
          exact Nat.max_le.mpr ⟨hnow, hdue due hcome⟩
        · exact hnow

/-- When all tasks have gone on that can without time passing, no time has passed. -/
theorem clock_settleDown_le (shop : Shop) : shop.settleDown.clock ≤ shop.clock := by
  have hfoldl : ∀ (tasks : List Task) (shop : Shop),
      (tasks.foldl run shop).clock = shop.clock := by
    intro tasks
    induction tasks with
    | nil => exact fun _ ↦ rfl
    | cons task rest ih => exact fun shop ↦ (ih _).trans (shop.clock_run task)
  unfold settleDown runFresh
  dsimp only
  rw [hfoldl]
  exact clock_runDue_le (Nat.le_refl _) fun _ hdue ↦ of_decide_eq_true hdue

/-! ## The loop -/

/-- `RunsOn isDue shop last` says that waiting tasks go on one after the other, each at its time, as
long as that time is one of those given, and that the shop is then `last`. -/
inductive RunsOn (isDue : Nat → Bool) : Shop → Shop → Prop where
  | stops {shop : Shop} :
      (∀ due task others, Task.earliest? shop.tasks = some (due, task, others) →
        isDue due = false) →
      RunsOn isDue shop shop
  | goesOn {shop last : Shop} {due : Nat} {task : Task} {others : List Task} :
      Task.earliest? shop.tasks = some (due, task, others) → isDue due = true →
      RunsOn isDue (run { shop with clock := max shop.clock due, tasks := others } task) last →
      RunsOn isDue shop last

namespace RunsOn

/-- Tasks go on in one way only. -/
theorem eq (h : RunsOn isDue shop last) (hother : RunsOn isDue shop other) : last = other := by
  induction h with
  | stops hstops =>
      cases hother with
      | stops => rfl
      | goesOn hfirst hdue _ =>
          rw [hstops _ _ _ hfirst] at hdue
          cases hdue
  | goesOn hfirst hdue _ ih =>
      cases hother with
      | stops hstops =>
          rw [hstops _ _ _ hfirst] at hdue
          cases hdue
      | goesOn hfirst' _ hrest =>
          rw [hfirst] at hfirst'
          cases hfirst'
          exact ih hrest

/-- Tasks that have gone on up to one time may go on up to a later one. -/
theorem trans (h : RunsOn isDue shop middle) (hlater : ∀ due, isDue due = true → isDue' due = true)
    (hrest : RunsOn isDue' middle last) : RunsOn isDue' shop last := by
  induction h with
  | stops => exact hrest
  | goesOn hfirst hdue _ ih => exact .goesOn hfirst (hlater _ hdue) (ih hrest)

/-- What goes on is over when no time is left at which it may go on. -/
theorem isDue_eq_false (h : RunsOn isDue shop last) :
    ∀ due task others, Task.earliest? last.tasks = some (due, task, others) →
      isDue due = false := by
  induction h with
  | stops hstops => exact hstops
  | goesOn _ _ _ ih => exact ih

/-- Time that passes before any task goes on makes no difference but to the time. -/
theorem exists_late (h : RunsOn isDue shop last) (hnow : shop.clock ≤ moment)
    (hfirst : ∀ due task others, Task.earliest? shop.tasks = some (due, task, others) →
      moment ≤ due) :
    ∃ last', RunsOn isDue { shop with clock := moment } last' ∧
      ∀ time, { last' with clock := time } = { last with clock := time } := by
  cases h with
  | stops hstops => exact ⟨_, .stops hstops, fun _ ↦ rfl⟩
  | @goesOn _ _ due task others hnext hdue hrest =>
      have hmoment := hfirst due task others hnext
      refine ⟨last, .goesOn hnext hdue ?_, fun _ ↦ rfl⟩
      show RunsOn isDue (run { shop with clock := max moment due, tasks := others } task) last
      rwa [Nat.max_eq_right hmoment, ← Nat.max_eq_right (Nat.le_trans hnow hmoment)]

end RunsOn

/-- The loop of a shop has steps enough for its work. -/
theorem runsOn_runDue {steps : Nat} (hwaits : ∀ task ∈ shop.tasks, task.Waits)
    (hsteps : shop.work ≤ steps) : RunsOn isDue shop (runDue isDue steps shop) := by
  induction steps generalizing shop with
  | zero =>
      refine .stops fun due task others hfirst ↦ ?_
      have htasks : shop.tasks = [] := tasks_runDue hwaits hsteps
      rw [htasks] at hfirst
      cases hfirst
  | succ steps ih =>
      unfold runDue
      split
      · rename_i hnone
        refine .stops fun due task others hfirst ↦ ?_
        rw [hnone] at hfirst
        cases hfirst
      · rename_i due task others hfirst
        split
        · rename_i hdue
          obtain ⟨hless, hstill⟩ := work_run_of_earliest? hwaits hfirst (max shop.clock due)
          exact .goesOn hfirst hdue (ih hstill (by omega))
        · rename_i hdue
          refine .stops fun due' task' others' hfirst' ↦ ?_
          rw [hfirst] at hfirst'
          cases hfirst'
          exact Bool.eq_false_of_not_eq_true hdue

/-- The loop of a shop in which all tasks wait has steps enough, and all tasks wait at its end. -/
theorem runsOn_runWhile (hwaits : ∀ task ∈ shop.tasks, task.Waits) (isDue : Nat → Bool) :
    RunsOn isDue shop (shop.runWhile isDue) ∧ ∀ task ∈ (shop.runWhile isDue).tasks, task.Waits :=
  ⟨runsOn_runDue hwaits (Nat.le_refl _), forall_tasks_runDue (fun _ ↦ id) isDue _ hwaits⟩

/-! ## Two waits -/

/-- Where all tasks wait none has to begin. -/
theorem runFresh_of_waits (hwaits : ∀ task ∈ shop.tasks, task.Waits) : shop.runFresh = shop := by
  have hall : shop.tasks.filter (fun t ↦ t.due?.isSome) = shop.tasks :=
    List.filter_eq_self.mpr fun task htask ↦ (hwaits task htask).1
  have hfresh : shop.tasks.filter (fun t ↦ !t.due?.isSome) = [] :=
    List.filter_eq_nil_iff.mpr fun task htask ↦ by simp [(hwaits task htask).1]
  unfold runFresh
  rw [List.partition_eq_filter_filter, hall]
  show ((shop.tasks.filter fun t ↦ !t.due?.isSome).foldl run shop) = shop
  rw [hfresh]
  rfl

/-- A moment that has come is not waited for. -/
theorem waitUntil_of_le (h : moment ≤ shop.clock) : shop.waitUntil moment = shop :=
  if_pos h

/-- A moment that has not come is waited for. -/
theorem waitUntil_of_lt (h : shop.clock < moment) :
    shop.waitUntil moment =
      { shop.settleDown.runWhile (· < moment) with clock := moment } :=
  if_neg (Nat.not_le.mpr h)

/-- Where all tasks wait it makes no difference whether the loop is stopped at a moment. -/
theorem runWhile_of_paused {settled : Shop} (hwaits : ∀ task ∈ settled.tasks, task.Waits)
    {early late : Nat} (hnow : settled.clock ≤ early) (hlt : early < late) :
    { (settleDown { settled.runWhile (· < early) with clock := early }).runWhile (· < late) with
      clock := late } = { settled.runWhile (· < late) with clock := late } := by
  have hlater : ∀ due, decide (due < early) = true → decide (due < late) = true := by
    simp only [decide_eq_true_eq]
    omega
  obtain ⟨hfirst, hmiddle⟩ := runsOn_runWhile hwaits (· < early)
  obtain ⟨hwhole, -⟩ := runsOn_runWhile hwaits (· < late)
  generalize settled.runWhile (· < late) = last at hwhole ⊢
  have hclock : (settled.runWhile (· < early)).clock ≤ early :=
    clock_runDue_le hnow fun due hdue ↦ Nat.le_of_lt (of_decide_eq_true hdue)
  generalize settled.runWhile (· < early) = middle at hfirst hmiddle hclock ⊢
  -- Without a pause the loop goes on from `middle`.
  obtain ⟨hdirect, -⟩ := runsOn_runWhile hmiddle (· < late)
  obtain rfl := hwhole.eq (hfirst.trans hlater hdirect)
  -- With a pause the tasks that are due at the moment itself go on before the others.
  have hpaused : ∀ task ∈ ({ middle with clock := early } : Shop).tasks, task.Waits := hmiddle
  obtain ⟨hdue, hstill⟩ := runsOn_runWhile hpaused (· ≤ early)
  have hsettled : settleDown { middle with clock := early } =
      runWhile { middle with clock := early } (· ≤ early) := runFresh_of_waits hstill
  obtain ⟨hrest, -⟩ := runsOn_runWhile hstill (· < late)
  obtain ⟨other, hother, hsame⟩ := hdirect.exists_late hclock fun due task others hnext ↦
    Nat.le_of_not_lt (of_decide_eq_false (hfirst.isDue_eq_false due task others hnext))
  rw [hsettled, (hdue.trans (fun due h ↦ ?_) hrest).eq hother, hsame]
  exact decide_eq_true (Nat.lt_of_le_of_lt (of_decide_eq_true h) hlt)

/-- A wait up to one moment and then up to a later one is a wait up to the later one. -/
theorem waitUntil_waitUntil (hlive : shop.IsLive) {early late : Nat} (hle : early ≤ late) :
    (shop.waitUntil early).waitUntil late = shop.waitUntil late := by
  by_cases hpast : early ≤ shop.clock
  · rw [waitUntil_of_le hpast]
  have hlater := Nat.lt_of_not_le hpast
  have hclock : (shop.waitUntil early).clock = early := clock_waitUntil (Nat.le_of_lt hlater)
  rcases Nat.eq_or_lt_of_le hle with rfl | hlt
  · exact waitUntil_of_le (Nat.le_of_eq hclock.symm)
  rw [waitUntil_of_lt (hclock.symm ▸ hlt), waitUntil_of_lt hlater,
    waitUntil_of_lt (Nat.lt_trans hlater hlt)]
  exact runWhile_of_paused (settleDown_waits hlive)
    (Nat.le_trans shop.clock_settleDown_le (Nat.le_of_lt hlater)) hlt

end Storefront.Shop
