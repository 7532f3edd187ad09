import Storefront.Proofs.Shop.Outbox

/-!
# Work in the background

Every function of the background leaves the faults and the stores of a shop alone, and sends no more
than its task owes. For one task this is `Serves`, from the start of a call to `resume_serves`; for
all tasks of a shop it is `Passes`, from `run_passes` through the loop of `runDue` to
`drain_passes`.
-/

namespace Storefront.Shop

/-- `shop.Serves owed next left` says that between two moments the faults, the stores, and the tasks
that wait stay as they are, and that what was sent and what is left were owed before. -/
structure Serves (shop : Shop) (owed : Multiset Errand) (next : Shop) (left : Multiset Errand) :
    Prop where
  faults_eq : next.faults = shop.faults
  tasks_eq : next.tasks = shop.tasks
  stores_eq : next.collaborators.stores = shop.collaborators.stores
  sends : shop.collaborators.Sends owed next.collaborators left

namespace Serves

variable {shop next last : Shop} {owed left rest : Multiset Errand}

/-- Nothing is sent where the collaborators stay as they are. -/
theorem of_same (owed : Multiset Errand) (hfaults : next.faults = shop.faults)
    (htasks : next.tasks = shop.tasks) (hcollaborators : next.collaborators = shop.collaborators) :
    shop.Serves owed next owed := by
  refine ⟨hfaults, htasks, ?_, ?_⟩
  · rw [hcollaborators]
  · rw [hcollaborators]
    exact .refl _ owed

/-- Two stretches of work make up one. -/
theorem trans (hfirst : shop.Serves owed next left) (hsecond : next.Serves left last rest) :
    shop.Serves owed last rest where
  faults_eq := hsecond.faults_eq.trans hfirst.faults_eq
  tasks_eq := hsecond.tasks_eq.trans hfirst.tasks_eq
  stores_eq := hsecond.stores_eq.trans hfirst.stores_eq
  sends := hfirst.sends.trans hsecond.sends

/-- What is owed besides stays owed. -/
theorem frame (h : shop.Serves owed next left) (extra : Multiset Errand) :
    shop.Serves (owed + extra) next (left + extra) :=
  { h with sends := h.sends.frame extra }

end Serves

/-- A call is heard beside all else. -/
theorem hear_serves (shop : Shop) (request : Request) (context : Context) (owed : Multiset Errand) :
    shop.Serves owed (shop.hear request context) owed := by
  unfold hear
  split <;> exact .of_same owed rfl rfl rfl

/-- Nothing has been sent when a call starts. -/
theorem send_serves (shop : Shop) (caller : Caller) (request : Request) (owed : Multiset Errand) :
    shop.Serves owed (shop.send caller request).2 owed := by
  unfold send
  dsimp only
  split
  · refine Serves.trans ?_ (hear_serves _ _ _ owed)
    exact .of_same owed rfl rfl rfl
  · exact .of_same owed rfl rfl rfl

/-- The call for a confirmation serves the confirmation. -/
theorem settle_confirm_serves (shop : Shop) (confirmation : Confirmation) (sent : Sent) :
    shop.Serves {.confirm confirmation} (shop.settle (.confirm confirmation) sent).2 0 := by
  have hanswer : shop.Serves {.confirm confirmation}
      (shop.answerUnless (.confirm confirmation) sent).2 0 := by
    unfold answerUnless
    cases sent.interruption with
    | some reason => exact ⟨rfl, rfl, rfl, .nothing _ _⟩
    | none =>
        obtain ⟨hstores, hsends⟩ :=
          shop.collaborators.sends_answer_confirm confirmation sent.isScripted
        exact ⟨rfl, rfl, hstores, hsends⟩
  obtain ⟨span, hsettle⟩ := shop.exists_settle_eq (.confirm confirmation) sent
  rw [hsettle]
  exact hanswer.trans (.of_same 0 rfl rfl rfl)

/-- The end of a confirmation serves it. -/
theorem endConfirmation_serves (shop : Shop) (confirmation : Confirmation) (sent : Sent) :
    shop.Serves {.confirm confirmation} (shop.endConfirmation confirmation sent) 0 := by
  have hsettle := shop.settle_confirm_serves confirmation sent
  unfold endConfirmation
  split
  · rename_i h
    rw [h] at hsettle
    exact hsettle.trans (.of_same 0 rfl rfl rfl)
  · rename_i h
    rw [h] at hsettle
    exact hsettle.trans (.of_same 0 rfl rfl rfl)

/-- The start of a confirmation serves it, or it is left. -/
theorem confirm_serves (shop : Shop) (caller : Caller) (confirmation : Confirmation) :
    shop.Serves {.confirm confirmation} (shop.confirm caller confirmation).2
      (owedBy (shop.confirm caller confirmation).1.toList) := by
  have hsend := shop.send_serves caller (.confirm confirmation) {.confirm confirmation}
  unfold confirm
  dsimp only
  split
  · simpa [Task.owed] using hsend
  · exact hsend.trans (endConfirmation_serves _ _ _)

/-- Nothing has been sent when an announcement starts, and its message is about the order. -/
theorem beginAnnouncement_serves (shop : Shop) (caller : Caller) (order : Order)
    (owed : Multiset Errand) :
    shop.Serves owed (shop.beginAnnouncement caller order).2 owed ∧
      (shop.beginAnnouncement caller order).1.2.key = order.id.text :=
  ⟨.of_same owed rfl rfl rfl, rfl⟩

/-- The end of an announcement serves its message. -/
theorem endCopy_serves (shop : Shop) (sent : Sent × Message) :
    shop.Serves {.announce sent.2.key} (shop.endCopy sent) 0 := by
  have hdeliver : shop.Serves {.announce sent.2.key} (shop.deliverUnless sent.2 sent.1).2 0 := by
    unfold deliverUnless
    cases sent.1.interruption with
    | some reason => exact ⟨rfl, rfl, rfl, .nothing _ _⟩
    | none =>
        obtain ⟨hstores, hsends⟩ := shop.collaborators.sends_send sent.2 sent.1.isScripted
        exact ⟨rfl, rfl, hstores, hsends⟩
  unfold endCopy endAnnouncement
  rcases h : shop.deliverUnless sent.2 sent.1 with ⟨_ | _, _⟩
  · rw [h] at hdeliver
    exact hdeliver.trans (.of_same 0 rfl rfl rfl)
  · rw [h] at hdeliver
    exact hdeliver.trans (.of_same 0 rfl rfl rfl)

/-- Announcements serve their order one after the other, and the others are left. -/
theorem announceAll_serves (shop : Shop) (caller : Caller) (order : Order) (copies : Nat) :
    shop.Serves (.replicate copies (.announce order.id.text))
      (shop.announceAll caller order copies).2
      (owedBy (shop.announceAll caller order copies).1.toList) := by
  induction copies generalizing shop with
  | zero => exact .of_same 0 rfl rfl rfl
  | succ copies ih =>
      obtain ⟨hbegin, hkey⟩ := shop.beginAnnouncement_serves caller order
        (.replicate (copies + 1) (.announce order.id.text))
      unfold announceAll
      dsimp only
      split
      -- An announcement that waits is still owed, under the key of its message.
      · simpa [Task.owed, hkey, Multiset.replicate_succ] using hbegin
      · refine hbegin.trans (.trans ?_ (ih _))
        have hend := (endCopy_serves (shop.beginAnnouncement caller order).2
          (shop.beginAnnouncement caller order).1).frame
            (.replicate copies (.announce order.id.text))
        rw [hkey, Multiset.singleton_add, zero_add] at hend
        exact hend

/-- A task that goes on serves what it owes, and the rest is left. -/
theorem resume_serves (shop : Shop) (task : Task) :
    shop.Serves task.owed (shop.resume task).2 (owedBy (shop.resume task).1.toList) := by
  match task with
  | .confirmation caller confirmation none => exact shop.confirm_serves caller confirmation
  | .confirmation _ confirmation (some sent) => exact shop.endConfirmation_serves confirmation sent
  | .announcement caller order copies none => exact shop.announceAll_serves caller order copies
  | .announcement caller order copies (some sent) =>
      have hend := (shop.endCopy_serves sent).frame
        (.replicate (copies - 1) (.announce order.id.text))
      rw [zero_add] at hend
      exact hend.trans (announceAll_serves _ caller order (copies - 1))

/-- `shop.Passes extra next` says that between two moments the faults and the stores stay as they
are, and that what was sent and what tasks owe at the end was owed by tasks or in `extra` before. -/
structure Passes (shop : Shop) (extra : Multiset Errand) (next : Shop) : Prop where
  faults_eq : next.faults = shop.faults
  stores_eq : next.collaborators.stores = shop.collaborators.stores
  sends : shop.collaborators.Sends (owedBy shop.tasks + extra) next.collaborators
    (owedBy next.tasks)

namespace Passes

variable {shop base next last : Shop} {extra more : Multiset Errand}

/-- At one moment nothing passes. -/
theorem refl (shop : Shop) : shop.Passes 0 shop := by
  refine ⟨rfl, rfl, ?_⟩
  rw [add_zero]
  exact .refl _ _

/-- What is in hand at the start of either of two stretches may be in hand before both. -/
theorem trans (hfirst : shop.Passes extra next) (hsecond : next.Passes more last) :
    shop.Passes (extra + more) last := by
  refine ⟨hsecond.faults_eq.trans hfirst.faults_eq, hsecond.stores_eq.trans hfirst.stores_eq, ?_⟩
  rw [← add_assoc]
  exact (hfirst.sends.frame more).trans hsecond.sends

/-- Only the faults, the collaborators, and what is owed matter. -/
theorem rebase (h : base.Passes extra next) (hfaults : base.faults = shop.faults)
    (hcollaborators : base.collaborators = shop.collaborators)
    (howed : owedBy shop.tasks + more = owedBy base.tasks + extra) : shop.Passes more next := by
  obtain ⟨hfaults', hstores, hsends⟩ := h
  refine ⟨hfaults'.trans hfaults, hstores.trans (by rw [hcollaborators]), ?_⟩
  rw [howed, ← hcollaborators]
  exact hsends

/-- What is changed besides does not matter at the end either. -/
theorem settle (h : shop.Passes extra next) (hfaults : last.faults = next.faults)
    (hcollaborators : last.collaborators = next.collaborators) (htasks : last.tasks = next.tasks) :
    shop.Passes extra last := by
  refine ⟨hfaults.trans h.faults_eq, ?_, ?_⟩
  · rw [hcollaborators]
    exact h.stores_eq
  · rw [hcollaborators, htasks]
    exact h.sends

/-- Work for one task passes by the others. -/
theorem of_serves {owed left : Multiset Errand} (h : shop.Serves owed next left)
    (hfaults : last.faults = next.faults) (hcollaborators : last.collaborators = next.collaborators)
    (htasks : owedBy last.tasks = owedBy next.tasks + left) : shop.Passes owed last := by
  refine ⟨hfaults.trans h.faults_eq, ?_, ?_⟩
  · rw [hcollaborators]
    exact h.stores_eq
  · rw [hcollaborators, htasks, h.tasks_eq, add_comm _ owed, add_comm _ left]
    exact h.sends.frame (owedBy shop.tasks)

end Passes

/-- A task that goes on is served, and kept if it is not over. -/
theorem run_passes (shop : Shop) (task : Task) : shop.Passes task.owed (shop.run task) := by
  have hserves := shop.resume_serves task
  unfold run
  rcases h : shop.resume task with ⟨_ | waiting, next⟩
  · rw [h] at hserves
    exact .of_serves hserves rfl rfl (by simp)
  · rw [h] at hserves
    exact .of_serves hserves rfl rfl (by simp)

/-- Tasks that go on one after the other are served. -/
theorem foldl_run_passes (shop : Shop) (tasks : List Task) :
    shop.Passes (owedBy tasks) (tasks.foldl run shop) := by
  induction tasks generalizing shop with
  | nil => exact .refl shop
  | cons task rest ih =>
      rw [owedBy_cons]
      exact (shop.run_passes task).trans (ih _)

/-- Tasks that begin are served. -/
theorem runFresh_passes (shop : Shop) : shop.Passes 0 shop.runFresh := by
  unfold runFresh
  rw [List.partition_eq_filter_filter]
  refine (foldl_run_passes _ _).rebase rfl rfl ?_
  rw [add_zero, ← owedBy_append]
  exact (owedBy_perm (List.filter_append_perm _ _)).symm

/-- The task that goes on first is one of the tasks, and the others are the rest. -/
theorem perm_of_earliest? {tasks others : List Task} {due : Nat} {task : Task}
    (h : Task.earliest? tasks = some (due, task, others)) : tasks.Perm (task :: others) := by
  induction tasks generalizing due task others with
  | nil => cases h
  | cons first rest ih =>
      unfold Task.earliest? at h
      split at h
      · cases h
      -- The task comes from the rest, and the first one moves behind it.
      · rename_i hrest
        cases h
        exact ((ih hrest).cons first).trans (.swap _ _ _)
      · cases h
        exact .refl _
      · rename_i hrest
        split at h
        · cases h
          exact ((ih hrest).cons first).trans (.swap _ _ _)
        · cases h
          exact .refl _

/-- Waiting tasks that go on in the order of their times are served. -/
theorem runDue_passes (isDue : Nat → Bool) (steps : Nat) (shop : Shop) :
    shop.Passes 0 (runDue isDue steps shop) := by
  induction steps generalizing shop with
  | zero => exact .refl shop
  | succ steps ih =>
      unfold runDue
      split
      · exact .refl shop
      · rename_i due task others h
        split
        -- The task is taken out of those that wait, so what it owes is in hand while it runs.
        · refine ((run_passes _ task).trans (ih _)).rebase rfl rfl ?_
          rw [owedBy_perm (perm_of_earliest? h), owedBy_cons, add_zero, add_zero, add_comm]
        · exact .refl shop

/-- Letting all tasks go on that can serves them. -/
theorem settleDown_passes (shop : Shop) : shop.Passes 0 shop.settleDown := by
  have h := (runDue_passes (· ≤ shop.clock) shop.work shop).trans (runFresh_passes _)
  rwa [add_zero] at h

/-- Waiting serves tasks. -/
theorem waitUntil_passes (shop : Shop) (moment : Nat) : shop.Passes 0 (shop.waitUntil moment) := by
  unfold waitUntil
  split
  · exact .refl shop
  · have h := shop.settleDown_passes.trans (runDue_passes (· < moment) shop.settleDown.work _)
    rw [add_zero] at h
    exact h.settle rfl rfl rfl

/-- Waiting until no task is left serves tasks. -/
theorem drain_passes (shop : Shop) : shop.Passes 0 shop.drain.2 := by
  unfold drain
  dsimp only
  split
  · exact (Passes.refl shop).settle rfl rfl rfl
  · have h := shop.settleDown_passes.trans
      (runDue_passes (fun _ ↦ true) shop.settleDown.work shop.settleDown)
    rw [add_zero] at h
    exact h.settle rfl rfl rfl

end Storefront.Shop
