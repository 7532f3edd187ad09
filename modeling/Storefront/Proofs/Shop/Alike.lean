import Storefront.Proofs.Shop.Work
import Storefront.Shop.Placement

/-!
# Shops that differ only in what they record

Spans, their places in traces, the log, the metrics, and the record of calls tell of what a shop
does and decide nothing. `Shop.bare` is a shop without them, and two shops are alike if they are the
same without them. What alike shops do is answered alike and leaves them alike, from the start of a
call, `Alike.send`, through the background, `Alike.waitUntil`, to the placement of an order,
`Alike.place`.
-/

namespace Storefront

/-- A log whose entries are seen in another way. -/
def RetainedLog.map {α β : Type} (f : α → β) (log : RetainedLog α) : RetainedLog β :=
  ⟨log.entries.map f, log.capacity, log.total⟩

/-- It makes no difference whether an entry is seen in another way before it is pushed or after. -/
theorem RetainedLog.map_push {α β : Type} (f : α → β) (log : RetainedLog α) (entry : α) :
    (log.push entry).map f = (log.map f).push (f entry) := by
  have hnewest : (newest log.capacity (log.entries ++ [entry])).map f =
      newest log.capacity (log.entries.map f ++ [f entry]) := by
    unfold newest
    cases log.capacity with
    | none => exact List.map_append
    | some c =>
        dsimp only
        rw [List.map_drop, List.map_append, List.length_append, List.length_append,
          List.length_map]
        rfl
  unfold push map
  rw [hnewest]

/-- A span at no place in any trace, which records nothing. -/
def Span.nowhere : Span :=
  ⟨⟨0, 0, 0, false, .empty⟩, none⟩

/-- A request that has been sent, without its span. -/
def Sent.bare (sent : Sent) : Sent :=
  { sent with span := .nowhere }

/-- A message without its headers. -/
def Message.bare (message : Message) : Message :=
  { message with headers := .empty }

/-- A caller without a context. -/
def Caller.bare (caller : Caller) : Caller :=
  { caller with context := .empty }

namespace Task

/-- A task without contexts, spans, and headers. -/
def bare : Task → Task
  | .confirmation caller c sent => .confirmation caller.bare c (sent.map Sent.bare)
  | .announcement caller order copies sent =>
      .announcement caller.bare order copies (sent.map fun s ↦ (s.1.bare, s.2.bare))

/-- When a task goes on does not depend on its context. -/
@[simp] theorem due?_bare (task : Task) : task.bare.due? = task.due? := by
  match task with
  | .confirmation _ _ sent => cases sent <;> rfl
  | .announcement _ _ _ sent => cases sent <;> rfl

@[simp] theorem size_bare (task : Task) : task.bare.size = task.size := by
  cases task <;> rfl

@[simp] theorem bare_bare (task : Task) : task.bare.bare = task.bare := by
  match task with
  | .confirmation _ _ sent => cases sent <;> rfl
  | .announcement _ _ _ sent => cases sent <;> rfl

/-- Which task goes on first does not depend on contexts. -/
theorem earliest?_map_bare (tasks : List Task) :
    earliest? (tasks.map bare) =
      (earliest? tasks).map fun (due, task, others) ↦ (due, task.bare, others.map bare) := by
  induction tasks with
  | nil => rfl
  | cons task rest ih =>
      rw [List.map_cons]
      unfold earliest?
      rw [due?_bare, ih]
      rcases task.due? with _ | due <;> rcases earliest? rest with _ | ⟨other, first, others⟩
      · rfl
      · rfl
      · rfl
      · dsimp only [Option.map_some]
        split <;> rfl

end Task

namespace Collaborators

/-- The collaborators without the headers of their messages. -/
def bare (c : Collaborators) : Collaborators :=
  { c with broker := { c.broker with messages := c.broker.messages.map Message.bare } }

@[simp] theorem bare_bare (c : Collaborators) : c.bare.bare = c.bare := by
  have hmessages : (c.broker.messages.map Message.bare).map Message.bare =
      c.broker.messages.map Message.bare := by
    unfold RetainedLog.map
    rw [List.map_map]
    rfl
  show { c with broker := { c.broker with
    messages := (c.broker.messages.map Message.bare).map Message.bare } } = _
  rw [hmessages]
  rfl

/-- No service reads the headers of messages. -/
theorem serviceAnswer_bare (c : Collaborators) (request : Request) :
    c.bare.serviceAnswer request =
      ((c.serviceAnswer request).1, (c.serviceAnswer request).2.bare) := by
  cases request with
  | getCart | getProduct | getQuote | convert | shipOrder | emptyCart => rfl
  | charge amount card diverted => cases diverted <;> rfl
  | confirm confirmation =>
      unfold serviceAnswer confirm
      rw [show c.bare.remoteMail = c.remoteMail from rfl]
      cases c.remoteMail <;> rfl

/-- Whatever a request is answered, the headers of messages have no part in it. -/
theorem answer_bare (c : Collaborators) (request : Request) (isScripted : Bool) :
    c.bare.answer request isScripted =
      ((c.answer request isScripted).1, (c.answer request isScripted).2.bare) := by
  unfold answer
  rw [serviceAnswer_bare, show c.bare.scripted = c.scripted from rfl]
  generalize (if isScripted then c.scripted.answer? request else none) = script
  cases script <;> rfl

/-- Neither do they have a part in what the broker answers. -/
theorem send_bare (c : Collaborators) (message : Message) (isScripted : Bool) :
    c.bare.send message.bare isScripted =
      ((c.send message isScripted).1, (c.send message isScripted).2.bare) := by
  have hbroker : c.bare.broker.send message.bare = ((c.broker.send message).1,
      { (c.broker.send message).2 with
        messages := (c.broker.send message).2.messages.map Message.bare }) := by
    unfold Broker.send
    rw [show c.bare.broker.fails = c.broker.fails from rfl]
    cases c.broker.fails with
    | true => rfl
    | false =>
        rw [if_neg Bool.false_ne_true, if_neg Bool.false_ne_true, RetainedLog.map_push]
        rfl
  unfold send
  rw [hbroker, show c.bare.scripted = c.scripted from rfl]
  generalize (if isScripted then c.scripted.send else none) = script
  cases script <;> rfl

end Collaborators

namespace Shop

/-- A shop without what it records. -/
def bare (shop : Shop) : Shop :=
  { shop with
    collaborators := shop.collaborators.bare
    calls := .disabled
    tracer := .new 1 0
    spans := []
    log := []
    metrics := []
    tasks := shop.tasks.map Task.bare }

@[simp] theorem bare_bare (shop : Shop) : shop.bare.bare = shop.bare := by
  have htasks : (shop.tasks.map Task.bare).map Task.bare = shop.tasks.map Task.bare := by
    rw [List.map_map]
    exact List.map_congr_left fun task _ ↦ task.bare_bare
  show { shop.bare with
    collaborators := shop.collaborators.bare.bare
    tasks := (shop.tasks.map Task.bare).map Task.bare } = _
  rw [htasks, Collaborators.bare_bare]
  rfl

/-- Two shops differ at most in what they record. -/
abbrev Alike (shop other : Shop) : Prop :=
  shop.bare = other.bare

variable {shop other : Shop} {caller caller' : Caller} {sent sent' : Sent}

/-- The start of a call is only recorded, and when the call is over has nothing to do with what is
recorded. -/
theorem bare_send (shop : Shop) (caller : Caller) (request : Request) :
    (shop.send caller request).2.bare = shop.bare ∧
      (shop.bare.send caller.bare request).1.bare = (shop.send caller request).1.bare := by
  refine ⟨?_, rfl⟩
  unfold send hear
  dsimp only
  split
  · split <;> rfl
  · rfl

/-- What comes of a request has nothing to do with what is recorded. -/
theorem bare_answerUnless (shop : Shop) (request : Request) (sent : Sent) :
    shop.bare.answerUnless request sent.bare =
      ((shop.answerUnless request sent).1, (shop.answerUnless request sent).2.bare) := by
  unfold answerUnless
  rw [show sent.bare.interruption = sent.interruption from rfl]
  cases sent.interruption with
  | some reason => rfl
  | none =>
      dsimp only
      unfold answer
      rw [show shop.bare.collaborators = shop.collaborators.bare from rfl,
        Collaborators.answer_bare]
      rfl

/-- The end of a call has nothing to do with what is recorded. -/
theorem bare_settle (shop : Shop) (request : Request) (sent : Sent) :
    shop.bare.settle request sent.bare =
      ((shop.settle request sent).1, (shop.settle request sent).2.bare) := by
  unfold settle
  rw [bare_answerUnless]
  rcases shop.answerUnless request sent with ⟨_ | _, _⟩ <;> rfl

/-- Neither has the end of a confirmation. -/
theorem bare_endConfirmation (shop : Shop) (confirmation : Confirmation) (sent : Sent) :
    (shop.bare.endConfirmation confirmation sent.bare).bare =
      (shop.endConfirmation confirmation sent).bare := by
  unfold endConfirmation
  rw [bare_settle]
  rcases shop.settle (.confirm confirmation) sent with ⟨_ | _, next⟩ <;> exact next.bare_bare

/-- The start of an announcement is only recorded. -/
theorem bare_beginAnnouncement (shop : Shop) (caller : Caller) (order : Order) :
    (shop.beginAnnouncement caller order).2.bare = shop.bare ∧
      (shop.bare.beginAnnouncement caller.bare order).1.1.bare =
        (shop.beginAnnouncement caller order).1.1.bare ∧
      (shop.bare.beginAnnouncement caller.bare order).1.2.bare =
        (shop.beginAnnouncement caller order).1.2.bare :=
  ⟨rfl, rfl, rfl⟩

/-- The end of an announcement has nothing to do with what is recorded. -/
theorem bare_endCopy (shop : Shop) (sent : Sent × Message) :
    (shop.bare.endCopy (sent.1.bare, sent.2.bare)).bare = (shop.endCopy sent).bare := by
  have hdeliver : shop.bare.deliverUnless sent.2.bare sent.1.bare =
      ((shop.deliverUnless sent.2 sent.1).1, (shop.deliverUnless sent.2 sent.1).2.bare) := by
    unfold deliverUnless
    rw [show sent.1.bare.interruption = sent.1.interruption from rfl]
    cases sent.1.interruption with
    | some reason => rfl
    | none =>
        dsimp only
        unfold deliver
        rw [show shop.bare.collaborators = shop.collaborators.bare from rfl,
          Collaborators.send_bare]
        rfl
  unfold endCopy endAnnouncement
  rw [hdeliver]
  rcases shop.deliverUnless sent.2 sent.1 with ⟨_ | _, next⟩ <;> exact next.bare_bare

namespace Alike

/-- Alike shops have the same time. -/
theorem clock_eq (h : shop.Alike other) : shop.clock = other.clock :=
  (congrArg Shop.clock h :)

/-- Alike shops have the same tasks but for contexts and spans. -/
theorem map_tasks_eq (h : shop.Alike other) :
    shop.tasks.map Task.bare = other.tasks.map Task.bare :=
  (congrArg Shop.tasks h :)

/-- Alike shops have the same work to do. -/
theorem work_eq (h : shop.Alike other) : shop.work = other.work := by
  have hbare : ∀ shop : Shop, shop.bare.work = shop.work := fun shop ↦ by
    show (shop.tasks.map Task.bare).foldl _ 0 = _
    rw [List.foldl_map]
    simp only [Task.size_bare]
    rfl
  rw [← hbare shop, h, hbare]

/-- Tasks may be replaced in alike shops. -/
theorem withTasks (h : shop.Alike other) {tasks tasks' : List Task}
    (htasks : tasks.map Task.bare = tasks'.map Task.bare) :
    Alike { shop with tasks := tasks } { other with tasks := tasks' } := by
  show { shop.bare with tasks := tasks.map Task.bare } =
    { other.bare with tasks := tasks'.map Task.bare }
  rw [h, htasks]

/-- Calls of alike shops are over at the same time. -/
theorem send (h : shop.Alike other) (hcaller : caller.bare = caller'.bare) (request : Request) :
    (shop.send caller request).1.bare = (other.send caller' request).1.bare ∧
      (shop.send caller request).2.Alike (other.send caller' request).2 := by
  obtain ⟨hshop, hsent⟩ := shop.bare_send caller request
  obtain ⟨hother, hsent'⟩ := other.bare_send caller' request
  refine ⟨?_, hshop.trans (h.trans hother.symm)⟩
  rw [← hsent, ← hsent', h, hcaller]

/-- Calls of alike shops are answered alike. -/
theorem settle (h : shop.Alike other) (hsent : sent.bare = sent'.bare) (request : Request) :
    (shop.settle request sent).1 = (other.settle request sent').1 ∧
      (shop.settle request sent).2.Alike (other.settle request sent').2 := by
  have hshop := shop.bare_settle request sent
  rw [h, hsent, bare_settle] at hshop
  exact ⟨(congrArg Prod.fst hshop).symm, (congrArg Prod.snd hshop).symm⟩

/-- Confirmations of alike shops end alike. -/
theorem endConfirmation (h : shop.Alike other) (hsent : sent.bare = sent'.bare)
    (confirmation : Confirmation) :
    (shop.endConfirmation confirmation sent).Alike (other.endConfirmation confirmation sent') := by
  show Shop.bare _ = Shop.bare _
  rw [← bare_endConfirmation, h, hsent, bare_endConfirmation]

/-- Confirmations of alike shops are sent alike. -/
theorem confirm (h : shop.Alike other) (hcaller : caller.bare = caller'.bare)
    (confirmation : Confirmation) :
    (shop.confirm caller confirmation).1.map Task.bare =
        (other.confirm caller' confirmation).1.map Task.bare ∧
      (shop.confirm caller confirmation).2.Alike (other.confirm caller' confirmation).2 := by
  obtain ⟨hsent, hnext⟩ := h.send hcaller (.confirm confirmation)
  have htime := congrArg Sent.time hsent
  change (shop.send caller _).1.time = (other.send caller' _).1.time at htime
  unfold Shop.confirm
  dsimp only
  rw [hnext.clock_eq, htime]
  split
  · refine ⟨?_, hnext⟩
    simp only [Option.map_some, Task.bare, hcaller, hsent]
  · exact ⟨rfl, hnext.endConfirmation hsent confirmation⟩

/-- Copies of an announcement end alike. -/
theorem endCopy (h : shop.Alike other) {copy copy' : Sent × Message}
    (hsent : copy.1.bare = copy'.1.bare) (hmessage : copy.2.bare = copy'.2.bare) :
    (shop.endCopy copy).Alike (other.endCopy copy') := by
  show Shop.bare _ = Shop.bare _
  rw [← bare_endCopy, h, hsent, hmessage, bare_endCopy]

/-- Announcements of alike shops are sent alike. -/
theorem announceAll (h : shop.Alike other) (hcaller : caller.bare = caller'.bare) (order : Order)
    (copies : Nat) :
    (shop.announceAll caller order copies).1.map Task.bare =
        (other.announceAll caller' order copies).1.map Task.bare ∧
      (shop.announceAll caller order copies).2.Alike
        (other.announceAll caller' order copies).2 := by
  induction copies generalizing shop other with
  | zero => exact ⟨rfl, h⟩
  | succ copies ih =>
      obtain ⟨hshop, hsent, hmessage⟩ := shop.bare_beginAnnouncement caller order
      obtain ⟨hother, hsent', hmessage'⟩ := other.bare_beginAnnouncement caller' order
      rw [h, hcaller] at hsent hmessage
      rw [hsent] at hsent'
      rw [hmessage] at hmessage'
      have hnext : (shop.beginAnnouncement caller order).2.Alike
          (other.beginAnnouncement caller' order).2 := hshop.trans (h.trans hother.symm)
      have htime := congrArg Sent.time hsent'
      change (shop.beginAnnouncement caller order).1.1.time =
        (other.beginAnnouncement caller' order).1.1.time at htime
      unfold Shop.announceAll
      dsimp only
      rw [hnext.clock_eq, htime]
      split
      · refine ⟨?_, hnext⟩
        simp only [Option.map_some, Task.bare, hcaller, hsent', hmessage']
      · exact ih (hnext.endCopy hsent' hmessage')

/-- A task goes on alike. -/
theorem resume (h : shop.Alike other) {task task' : Task} (htask : task.bare = task'.bare) :
    (shop.resume task).1.map Task.bare = (other.resume task').1.map Task.bare ∧
      (shop.resume task).2.Alike (other.resume task').2 := by
  -- It is enough to compare each shop with the bare one.
  have hbare : ∀ (shop : Shop) (task : Task),
      (shop.bare.resume task.bare).1.map Task.bare = (shop.resume task).1.map Task.bare ∧
        (shop.bare.resume task.bare).2.Alike (shop.resume task).2 := by
    intro shop task
    have hshop : shop.bare.Alike shop := shop.bare_bare
    have hcaller : ∀ caller : Caller, caller.bare.bare = caller.bare := fun _ ↦ rfl
    match task with
    | .confirmation caller confirmation none =>
        exact hshop.confirm (hcaller caller) confirmation
    | .confirmation _ confirmation (some sent) =>
        exact ⟨rfl, shop.bare_endConfirmation confirmation sent⟩
    | .announcement caller order copies none =>
        exact hshop.announceAll (hcaller caller) order copies
    | .announcement caller order copies (some sent) =>
        have hcopy : Alike _ _ := shop.bare_endCopy sent
        exact hcopy.announceAll (hcaller caller) order (copies - 1)
  obtain ⟨hleft, hshop⟩ := hbare shop task
  obtain ⟨hleft', hother⟩ := hbare other task'
  rw [h, htask] at hleft hshop
  exact ⟨hleft.symm.trans hleft', hshop.symm.trans hother⟩

/-- A task is run alike. -/
theorem run (h : shop.Alike other) {task task' : Task} (htask : task.bare = task'.bare) :
    (shop.run task).Alike (other.run task') := by
  obtain ⟨hleft, hnext⟩ := h.resume htask
  unfold Shop.run
  generalize shop.resume task = resumed at hleft hnext ⊢
  generalize other.resume task' = resumed' at hleft hnext ⊢
  obtain ⟨_ | left, next⟩ := resumed <;> obtain ⟨_ | left', next'⟩ := resumed'
  · exact (congrArg (fun b : Shop ↦ { b with ended := b.ended + 1 }) hnext :)
  · cases hleft
  · cases hleft
  · refine hnext.withTasks ?_
    rw [List.map_append, List.map_append, hnext.map_tasks_eq]
    exact congrArg (fun b ↦ _ ++ b.toList) hleft

/-- Tasks are run alike, one after the other. -/
theorem foldl_run (h : shop.Alike other) {tasks tasks' : List Task}
    (htasks : tasks.map Task.bare = tasks'.map Task.bare) :
    (tasks.foldl Shop.run shop).Alike (tasks'.foldl Shop.run other) := by
  induction tasks generalizing shop other tasks' with
  | nil =>
      obtain rfl := List.map_eq_nil_iff.mp htasks.symm
      exact h
  | cons task rest ih =>
      obtain ⟨task', rest', rfl, htask, hrest⟩ := List.map_eq_cons_iff.mp htasks.symm
      exact ih (h.run htask.symm) hrest.symm

/-- All tasks begin alike. -/
theorem runFresh (h : shop.Alike other) : shop.runFresh.Alike other.runFresh := by
  have hfilter : ∀ (p : Option Nat → Bool),
      (shop.tasks.filter fun t ↦ p t.due?).map Task.bare =
        (other.tasks.filter fun t ↦ p t.due?).map Task.bare := by
    intro p
    have hmap : ∀ tasks : List Task, (tasks.filter fun t ↦ p t.due?).map Task.bare =
        (tasks.map Task.bare).filter fun t ↦ p t.due? := fun tasks ↦ by
      rw [List.filter_map]
      simp only [Function.comp_def, Task.due?_bare]
    rw [hmap, hmap, h.map_tasks_eq]
  unfold Shop.runFresh
  rw [List.partition_eq_filter_filter, List.partition_eq_filter_filter]
  exact (h.withTasks (hfilter Option.isSome)).foldl_run (hfilter fun due ↦ !due.isSome)

/-- Waiting tasks go on alike. -/
theorem runDue (h : shop.Alike other) (isDue : Nat → Bool) (steps : Nat) :
    (Shop.runDue isDue steps shop).Alike (Shop.runDue isDue steps other) := by
  induction steps generalizing shop other with
  | zero => exact h
  | succ steps ih =>
      have hfirst := Task.earliest?_map_bare shop.tasks
      rw [h.map_tasks_eq, Task.earliest?_map_bare] at hfirst
      unfold Shop.runDue
      generalize Task.earliest? shop.tasks = first at hfirst ⊢
      generalize Task.earliest? other.tasks = first' at hfirst ⊢
      obtain _ | ⟨due, task, others⟩ := first <;> obtain _ | ⟨due', task', others'⟩ := first'
      · exact h
      · cases hfirst
      · cases hfirst
      · simp only [Option.map_some, Option.some.injEq, Prod.mk.injEq] at hfirst
        obtain ⟨rfl, htask, hothers⟩ := hfirst
        dsimp only
        split
        · refine ih (Alike.run ?_ htask.symm)
          rw [h.clock_eq]
          have hnow : Alike { shop with clock := max other.clock due' }
              { other with clock := max other.clock due' } :=
            (congrArg (fun b : Shop ↦ { b with clock := max other.clock due' }) h :)
          exact hnow.withTasks hothers.symm
        · exact h

/-- Waiting tasks go on alike as long as there is work. -/
theorem runWhile (h : shop.Alike other) (isDue : Nat → Bool) :
    (shop.runWhile isDue).Alike (other.runWhile isDue) := by
  unfold Shop.runWhile
  rw [h.work_eq]
  exact h.runDue isDue _

/-- All tasks go on alike that can. -/
theorem settleDown (h : shop.Alike other) : shop.settleDown.Alike other.settleDown := by
  unfold Shop.settleDown
  rw [h.clock_eq]
  exact (h.runWhile _).runFresh

/-- Alike shops are alike when both have waited. -/
theorem waitUntil (h : shop.Alike other) (moment : Nat) :
    (shop.waitUntil moment).Alike (other.waitUntil moment) := by
  unfold Shop.waitUntil
  rw [h.clock_eq]
  split
  · exact h
  · exact (congrArg (fun b : Shop ↦ { b with clock := moment })
      (h.settleDown.runWhile fun due ↦ due < moment) :)

/-- Alike shops have the same number of tasks, and are alike when none is left. -/
theorem drain (h : shop.Alike other) :
    shop.drain.1 = other.drain.1 ∧ shop.drain.2.Alike other.drain.2 := by
  have htasks := h.map_tasks_eq
  have hlength : shop.tasks.length = other.tasks.length := by
    rw [← List.length_map Task.bare, htasks, List.length_map]
  have hended : shop.ended = other.ended := (congrArg Shop.ended h :)
  have hempty : shop.tasks.isEmpty = other.tasks.isEmpty := by
    rw [← List.isEmpty_map (f := Task.bare), htasks, List.isEmpty_map]
  have hreap : ∀ {shop other : Shop}, shop.Alike other → shop.reap.Alike other.reap :=
    fun h ↦ (congrArg Shop.reap h :)
  unfold Shop.drain
  rw [hlength, hended, hempty]
  refine ⟨rfl, ?_⟩
  dsimp only
  split
  · exact hreap h
  · exact hreap (h.settleDown.runWhile _)

/-- Who may abandon the work waits alike. -/
theorem waitOrAbandon (h : shop.Alike other) (abandonAt : Option Nat) (moment : Nat) :
    (shop.waitOrAbandon abandonAt moment).1 = (other.waitOrAbandon abandonAt moment).1 ∧
      (shop.waitOrAbandon abandonAt moment).2.Alike
        (other.waitOrAbandon abandonAt moment).2 := by
  unfold Shop.waitOrAbandon
  rw [h.clock_eq]
  split
  · exact ⟨rfl, h⟩
  · cases abandonAt with
    | none => exact ⟨rfl, h.waitUntil moment⟩
    | some early =>
        dsimp only
        split
        · exact ⟨rfl, h.waitUntil early⟩
        · exact ⟨rfl, h.waitUntil moment⟩

/-- A call is answered alike. -/
theorem call (h : shop.Alike other) (hcaller : caller.bare = caller'.bare)
    (abandonAt : Option Nat) (request : Request) :
    (shop.call caller abandonAt request).1 = (other.call caller' abandonAt request).1 ∧
      (shop.call caller abandonAt request).2.Alike (other.call caller' abandonAt request).2 := by
  obtain ⟨hsent, hnext⟩ := h.send hcaller request
  have htime := congrArg Sent.time hsent
  change (shop.send caller _).1.time = (other.send caller' _).1.time at htime
  obtain ⟨hgoesOn, hwaiting⟩ := hnext.waitOrAbandon abandonAt (other.send caller' request).1.time
  unfold Shop.call
  dsimp only
  rw [htime, hgoesOn]
  split
  · obtain ⟨hanswer, hended⟩ := hwaiting.settle hsent request
    exact ⟨congrArg some hanswer, hended⟩
  · exact ⟨rfl, hwaiting⟩

/-- Tasks are started alike. -/
theorem startTask (h : shop.Alike other) {task task' : Task} (htask : task.bare = task'.bare) :
    (shop.startTask task).Alike (other.startTask task') := by
  refine h.withTasks ?_
  rw [List.map_append, List.map_append, h.map_tasks_eq, List.map_singleton, List.map_singleton,
    htask]

/-- An order is followed up alike. -/
theorem followUp (h : shop.Alike other) (hcaller : caller.bare = caller'.bare) (order : Order)
    (email : String) :
    (shop.followUp caller order email).Alike (other.followUp caller' order email) := by
  have hclock := h.clock_eq
  have hsettings : shop.settings = other.settings := (congrArg Shop.settings h :)
  have hfaults : shop.faults = other.faults := (congrArg Shop.faults h :)
  have hannounces : shop.announces = other.announces := (congrArg Shop.announces h :)
  have hdetached : caller.detached.bare = caller'.detached.bare :=
    (congrArg Caller.detached hcaller :)
  have hconfirmation :
      (shop.reap.startConfirmation caller.detached order email).Alike
        (other.reap.startConfirmation caller'.detached order email) := by
    have hreap : shop.reap.Alike other.reap := (congrArg Shop.reap h :)
    unfold Shop.startConfirmation
    split
    · exact hreap
    · refine hreap.startTask ?_
      show Task.confirmation ⟨.empty, _⟩ _ none = Task.confirmation ⟨.empty, _⟩ _ none
      rw [show shop.reap.clock = other.reap.clock from hclock,
        show shop.reap.settings = other.reap.settings from hsettings]
      rfl
  have hkeeps : ∀ (shop : Shop) (caller : Caller),
      (shop.reap.startConfirmation caller order email).announces = shop.announces ∧
        (shop.reap.startConfirmation caller order email).faults = shop.faults := by
    intro shop caller
    unfold Shop.startConfirmation
    split <;> exact ⟨rfl, rfl⟩
  unfold Shop.followUp Shop.startAnnouncement
  dsimp only
  rw [(hkeeps shop _).1, (hkeeps other _).1, (hkeeps shop _).2, (hkeeps other _).2, hannounces,
    hfaults]
  split
  · refine hconfirmation.startTask ?_
    simp only [Task.bare, hdetached, Option.map_none]
  · exact hconfirmation

/-- A note leaves alike shops alike, whatever the spans are. -/
theorem note (h : shop.Alike other) (hcaller : caller.bare = caller'.bare) (span span' : Span)
    (n : Note) : (shop.note caller span n).2.Alike (other.note caller' span' n).2 := by
  cases n with
  | completed order email => exact h.followUp hcaller order email
  | _ => exact h

/-- A dialogue goes alike. -/
theorem converse {α : Type} (h : shop.Alike other) (hcaller : caller.bare = caller'.bare)
    (abandonAt : Option Nat) (d : Dialogue α) (span span' : Span) :
    (Shop.converse caller abandonAt d span shop).1 =
        (Shop.converse caller' abandonAt d span' other).1 ∧
      (Shop.converse caller abandonAt d span shop).2.2.Alike
        (Shop.converse caller' abandonAt d span' other).2.2 := by
  induction d generalizing span span' shop other with
  | done value => exact ⟨rfl, h⟩
  | ask request next ih =>
      obtain ⟨hanswer, hnext⟩ := h.call hcaller abandonAt request
      unfold Shop.converse
      generalize shop.call caller abandonAt request = called at hanswer hnext ⊢
      generalize other.call caller' abandonAt request = called' at hanswer hnext ⊢
      obtain ⟨_ | answer, after⟩ := called <;> obtain ⟨_ | answer', after'⟩ := called'
      · exact ⟨rfl, hnext⟩
      · cases hanswer
      · cases hanswer
      · cases hanswer
        exact ih _ hnext span span'
  | consult next ih =>
      have hdivert : shop.faults.divert = other.faults.divert :=
        (congrArg (fun b : Shop ↦ b.faults.divert) h :)
      unfold Shop.converse
      rw [hdivert]
      exact ih _ h span span'
  | note n next ih => exact ih (h.note hcaller span span' n) _ _

/-- Alike shops place an order with the same result. -/
theorem place (h : shop.Alike other) (hcaller : caller.bare = caller'.bare)
    (abandonAt : Option Nat) (request : OrderRequest) :
    (shop.place caller abandonAt request).1 = (other.place caller' abandonAt request).1 ∧
      (shop.place caller abandonAt request).2.Alike
        (other.place caller' abandonAt request).2 := by
  have hnumber : shop.nextOrder = other.nextOrder := (congrArg Shop.nextOrder h :)
  have hopened : (shop.openOrder caller request).2.Alike (other.openOrder caller' request).2 :=
    (congrArg (fun b : Shop ↦ { b with orders := b.orders + 1 }) h :)
  have hwithin : (caller.withParent (shop.openOrder caller request).1.context).bare =
      (caller'.withParent (other.openOrder caller' request).1.context).bare := hcaller
  obtain ⟨hresult, hfinal⟩ := hopened.converse hwithin abandonAt
    (Checkout.placeOrder shop.nextOrder request).run (shop.openOrder caller request).1
    (other.openOrder caller' request).1
  unfold Shop.place
  dsimp only
  rw [← hnumber]
  generalize Shop.converse _ _ _ _ (shop.openOrder caller request).2 = ended at hresult hfinal ⊢
  generalize Shop.converse _ _ _ _ (other.openOrder caller' request).2 = ended' at hresult hfinal ⊢
  obtain ⟨_ | result, span, closing⟩ := ended <;> obtain ⟨_ | result', span', closing'⟩ := ended'
  · exact ⟨rfl, hfinal⟩
  · cases hresult
  · cases hresult
  · cases hresult
    refine ⟨rfl, ?_⟩
    cases result <;> exact hfinal

end Alike

end Shop

end Storefront
