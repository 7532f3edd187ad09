import Mathlib
import Storefront.Proofs.Shop.Work
import Storefront.Shop.Placement

/-!
# The background comes to rest

Each time a task goes on that waits, less of it is left, so the loop that lets waiting tasks go on
has steps enough: `tasks_drain` says that after a shop has waited for its background no task is
left. This is for shops in which every task that waits has something left to do, and
all that happens in a shop keeps that true, `Places.exists_stages`.
-/

namespace Storefront

/-- The task waits, and it may go on at least once. -/
def Task.Waits (task : Task) : Prop :=
  task.due?.isSome = true ∧ 0 < task.size

/-- The task may go on if it waits. -/
def Task.IsLive (task : Task) : Prop :=
  task.due?.isSome = true → 0 < task.size

/-- A task that waits and may go on is live. -/
theorem Task.Waits.isLive {task : Task} (h : task.Waits) : task.IsLive :=
  fun _ ↦ h.2

/-- A task that has not begun is live, whatever it is about. -/
theorem Task.isLive_of_fresh {task : Task} (h : task.due? = none) : task.IsLive := by
  intro hwaits
  rw [h] at hwaits
  cases hwaits

/-- If no task goes on first then none waits. -/
theorem Task.due?_of_earliest?_eq_none {tasks : List Task} (h : Task.earliest? tasks = none) :
    ∀ task ∈ tasks, task.due? = none := by
  induction tasks with
  | nil => exact fun _ hmem ↦ absurd hmem List.not_mem_nil
  | cons first rest ih =>
      unfold Task.earliest? at h
      split at h
      · rename_i hdue hrest
        rw [List.forall_mem_cons]
        exact ⟨hdue, ih hrest⟩
      · cases h
      · cases h
      · split at h <;> cases h

namespace Shop

/-- All tasks of the shop are live. -/
def IsLive (shop : Shop) : Prop :=
  ∀ task ∈ shop.tasks, task.IsLive

/-- A shop without tasks is live. -/
theorem isLive_of_nil {shop : Shop} (h : shop.tasks = []) : shop.IsLive := by
  rw [IsLive, h]
  exact fun _ hmem ↦ absurd hmem List.not_mem_nil

/-- What is left of announcements waits, and is not more than there was. -/
theorem announceAll_waits (shop : Shop) (caller : Caller) (order : Order) (copies : Nat) :
    ∀ task ∈ (shop.announceAll caller order copies).1, task.Waits ∧ task.size ≤ copies := by
  induction copies generalizing shop with
  | zero => exact fun _ h ↦ absurd h (Option.not_mem_none _)
  | succ copies ih =>
      unfold announceAll
      dsimp only
      split
      · rintro _ ⟨⟩
        exact ⟨⟨rfl, Nat.succ_pos copies⟩, Nat.le_refl _⟩
      · intro task htask
        obtain ⟨hwaits, hsize⟩ := ih _ task htask
        exact ⟨hwaits, Nat.le_succ_of_le hsize⟩

/-- What is left of a task waits, and is less than there was if that waited too. -/
theorem resume_waits (shop : Shop) (task : Task) :
    ∀ left ∈ (shop.resume task).1, left.Waits ∧
      (task.due?.isSome = true → left.size < task.size) := by
  match task with
  | .confirmation caller confirmation none =>
      unfold resume confirm
      dsimp only
      split
      · rintro _ ⟨⟩
        exact ⟨⟨rfl, Nat.one_pos⟩, fun h ↦ absurd h Bool.false_ne_true⟩
      · exact fun _ h ↦ absurd h (Option.not_mem_none _)
  | .confirmation _ confirmation (some sent) => exact fun _ h ↦ absurd h (Option.not_mem_none _)
  | .announcement caller order copies none =>
      intro left hleft
      obtain ⟨hwaits, -⟩ := shop.announceAll_waits caller order copies left hleft
      exact ⟨hwaits, fun h ↦ absurd h Bool.false_ne_true⟩
  | .announcement caller order copies (some sent) =>
      intro left hleft
      obtain ⟨hwaits, hsize⟩ := announceAll_waits _ caller order (copies - 1) left hleft
      have hpos := hwaits.2
      refine ⟨hwaits, fun _ ↦ ?_⟩
      show left.size < copies
      omega

/-- A task that goes on stays behind the others if it is not over. -/
theorem tasks_run (shop : Shop) (task : Task) :
    (shop.run task).tasks = shop.tasks ++ (shop.resume task).1.toList := by
  have htasks : (shop.resume task).2.tasks = shop.tasks := (shop.resume_serves task).tasks_eq
  rw [← htasks]
  unfold run
  rcases shop.resume task with ⟨_ | left, next⟩
  · exact (List.append_nil _).symm
  · rfl

section

variable {P : Task → Prop}

/-- What holds of all tasks, and of tasks that wait, holds of all when one has gone on. -/
theorem forall_tasks_run (hwaits : ∀ task : Task, task.Waits → P task) {shop : Shop}
    (h : ∀ task ∈ shop.tasks, P task) (task : Task) : ∀ t ∈ (shop.run task).tasks, P t := by
  rw [tasks_run, List.forall_mem_append]
  refine ⟨h, fun left hleft ↦ hwaits left ?_⟩
  exact (shop.resume_waits task left (Option.mem_toList.mp hleft)).1

/-- What holds of all tasks, and of tasks that wait, holds of all when several have gone on. -/
theorem forall_tasks_foldl_run (hwaits : ∀ task : Task, task.Waits → P task) (tasks : List Task)
    {shop : Shop} (h : ∀ task ∈ shop.tasks, P task) :
    ∀ task ∈ (tasks.foldl run shop).tasks, P task := by
  induction tasks generalizing shop with
  | nil => exact h
  | cons task rest ih => exact ih (forall_tasks_run hwaits h task)

/-- What holds of all tasks, and of tasks that wait, holds of all while tasks go on in the order of
their times. -/
theorem forall_tasks_runDue (hwaits : ∀ task : Task, task.Waits → P task) (isDue : Nat → Bool)
    (steps : Nat) {shop : Shop} (h : ∀ task ∈ shop.tasks, P task) :
    ∀ task ∈ (runDue isDue steps shop).tasks, P task := by
  induction steps generalizing shop with
  | zero => exact h
  | succ steps ih =>
      unfold runDue
      split
      · exact h
      · rename_i due task others hfirst
        split
        · refine ih (forall_tasks_run hwaits ?_ task)
          intro other hother
          exact h other ((perm_of_earliest? hfirst).mem_iff.mpr (List.mem_cons_of_mem _ hother))
        · exact h

end

/-- When all tasks have begun that had not, all tasks wait. -/
theorem runFresh_waits {shop : Shop} (h : shop.IsLive) :
    ∀ task ∈ shop.runFresh.tasks, task.Waits := by
  unfold runFresh
  rw [List.partition_eq_filter_filter]
  refine forall_tasks_foldl_run (fun _ ↦ id) _ fun task htask ↦ ?_
  obtain ⟨hmem, hdue⟩ := List.mem_filter.mp htask
  exact ⟨hdue, h task hmem hdue⟩

/-- When all tasks have gone on that can, all tasks wait. -/
theorem settleDown_waits {shop : Shop} (h : shop.IsLive) :
    ∀ task ∈ shop.settleDown.tasks, task.Waits :=
  runFresh_waits (forall_tasks_runDue (fun _ ↦ Task.Waits.isLive) _ _ h)

/-- All tasks stay live while a shop waits. -/
theorem waitUntil_isLive {shop : Shop} (h : shop.IsLive) (moment : Nat) :
    (shop.waitUntil moment).IsLive := by
  unfold waitUntil
  split
  · exact h
  · exact forall_tasks_runDue (fun _ ↦ Task.Waits.isLive) _ _ fun task htask ↦
      (settleDown_waits h task htask).isLive

/-- The work of a shop is that of its tasks together. -/
theorem work_eq (shop : Shop) : shop.work = (shop.tasks.map Task.size).sum := by
  rw [work, List.sum_eq_foldl, List.foldl_map]

/-- A task that waited and goes on leaves less work. -/
theorem work_run_lt (shop : Shop) {task : Task} (h : task.Waits) :
    (shop.run task).work < (shop.tasks.map Task.size).sum + task.size := by
  rw [work_eq, tasks_run, List.map_append, List.sum_append]
  cases hleft : (shop.resume task).1 with
  | none => exact Nat.add_lt_add_left h.2 _
  | some left =>
      obtain ⟨-, hsize⟩ := shop.resume_waits task left hleft
      exact Nat.add_lt_add_left (hsize h.1) _

/-- Where all tasks wait, the one that goes on first leaves less work, and all tasks wait again. -/
theorem work_run_of_earliest? {shop : Shop} (hwaits : ∀ task ∈ shop.tasks, task.Waits) {due : Nat}
    {task : Task} {others : List Task}
    (hfirst : Task.earliest? shop.tasks = some (due, task, others)) (clock : Nat) :
    (run { shop with clock := clock, tasks := others } task).work < shop.work ∧
      ∀ t ∈ (run { shop with clock := clock, tasks := others } task).tasks, t.Waits := by
  have hperm := perm_of_earliest? hfirst
  obtain ⟨htask, hothers⟩ := List.forall_mem_cons.mp fun t ht ↦ hwaits t (hperm.mem_iff.mpr ht)
  refine ⟨?_, forall_tasks_run (fun _ ↦ id) hothers task⟩
  have hafter : _ < (others.map Task.size).sum + task.size :=
    work_run_lt { shop with clock := clock, tasks := others } htask
  have hbefore : shop.work = task.size + (others.map Task.size).sum := by
    rw [work_eq, (hperm.map Task.size).sum_eq, List.map_cons, List.sum_cons]
  omega

/-- Where all tasks wait and there are steps enough, all tasks come to an end. -/
theorem tasks_runDue {steps : Nat} {shop : Shop} (hwaits : ∀ task ∈ shop.tasks, task.Waits)
    (hsteps : shop.work ≤ steps) : (runDue (fun _ ↦ true) steps shop).tasks = [] := by
  induction steps generalizing shop with
  | zero =>
      show shop.tasks = []
      rw [List.eq_nil_iff_forall_not_mem]
      intro task htask
      have hsize := List.single_le_sum (fun _ _ ↦ Nat.zero_le _) _
        (List.mem_map_of_mem (f := Task.size) htask)
      rw [← work_eq] at hsize
      have hpos := (hwaits task htask).2
      omega
  | succ steps ih =>
      unfold runDue
      split
      · rename_i hnone
        rw [List.eq_nil_iff_forall_not_mem]
        intro task htask
        have hdue := (hwaits task htask).1
        rw [Task.due?_of_earliest?_eq_none hnone task htask] at hdue
        cases hdue
      · rename_i due task others hfirst
        rw [if_pos rfl]
        obtain ⟨hless, hstill⟩ := work_run_of_earliest? hwaits hfirst (max shop.clock due)
        exact ih hstill (by omega)

/-- When a shop has waited for its background no task is left. -/
theorem tasks_drain {shop : Shop} (h : shop.IsLive) : shop.drain.2.tasks = [] := by
  unfold drain
  dsimp only
  split
  · rename_i hempty
    exact List.isEmpty_iff.mp hempty
  · exact tasks_runDue (settleDown_waits h) (Nat.le_refl _)

/-- A shop without tasks only lets time pass while it waits. -/
theorem waitUntil_of_idle {shop : Shop} (h : shop.tasks = []) (moment : Nat) :
    shop.waitUntil moment = { shop with clock := max shop.clock moment } := by
  have hrest : ∀ isDue steps, runDue isDue steps shop = shop := by
    intro isDue steps
    cases steps with
    | zero => rfl
    | succ steps =>
        unfold runDue
        rw [h]
        rfl
  have hfresh : shop.runFresh = shop := by
    unfold runFresh
    rw [h]
    show { shop with tasks := [] } = shop
    rw [← h]
  have hsettled : shop.settleDown = shop := by
    unfold settleDown runWhile
    rw [hrest, hfresh]
  unfold waitUntil
  split
  · rename_i hle
    rw [Nat.max_eq_left hle]
  · rename_i hlt
    rw [hsettled, runWhile, hrest, Nat.max_eq_right (Nat.le_of_not_le hlt)]

/-- After a wait the moment has come. -/
theorem clock_waitUntil {shop : Shop} {moment : Nat} (h : shop.clock ≤ moment) :
    (shop.waitUntil moment).clock = moment := by
  unfold waitUntil
  split
  · omega
  · rfl

end Shop

end Storefront
