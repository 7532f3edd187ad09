import Storefront.Proofs.Shop.OneTrace

/-!
# What is going to be delivered

Whether the background delivers something is settled before it is sent: by the limits of the caller,
by the waiting times, and by how the services behave, none of which the background changes.
`Task.forecast` says what a task is going to deliver under such `Conditions`, and `Brings` that of
what was forecast some has been delivered and the rest is left.
-/

namespace Storefront

/-- What a message tells, apart from its time and the number of its span: where it goes, what it is
about, the order, and on whose behalf. -/
structure Notice where
  topic : String
  key : String
  order : Option Order
  trace : Option (TraceId × Bool)
  baggage : Baggage

/-- What can be read of a message, apart from its time and the number of its span. -/
def Message.notice (m : Message) : Notice where
  topic := m.topic
  key := m.key
  order := (Decoder.document PlacedEvent.decoder m.payload).toOption.map PlacedEvent.order
  trace := (extract m.headers).parent.map fun place ↦ (place.traceId, place.isSampled)
  baggage := (extract m.headers).baggage

/-- The notice of an order on behalf of a context. -/
def Notice.of (topic : String) (origin : Context) (order : Order) : Notice where
  topic := topic
  key := order.id.text
  order := some order
  trace := origin.parent.map fun place ↦ (place.traceId, place.isSampled)
  baggage := origin.baggage.erase ""

/-- Something that reaches a customer or the broker. -/
inductive Delivery where
  | confirmed (confirmation : Confirmation)
  | announced (notice : Notice)

/-- The confirmation, if it is one. -/
def Delivery.confirmed? : Delivery → Option Confirmation
  | confirmed confirmation => some confirmation
  | announced _ => none

/-- The notice, if it is one. -/
def Delivery.announced? : Delivery → Option Notice
  | confirmed _ => none
  | announced notice => some notice

/-- The confirmations and the notices of deliveries in any order are those of the deliveries. -/
theorem Delivery.filterMap_delivered (sent : List Confirmation) (notices : List Notice) :
    (sent.map confirmed ++ notices.map announced).filterMap confirmed? = sent ∧
      (sent.map confirmed ++ notices.map announced).filterMap announced? = notices := by
  simp [List.filterMap_append, List.filterMap_map, Function.comp_def, confirmed?, announced?]

/-- What decides whether the background delivers: the waiting times, the scripts, and how the
services behave. -/
structure Conditions where
  settings : FollowUpSettings
  scripted : Scripted
  remoteMail : Option RemoteMail
  mailFails : Bool
  mailDelay : Option Nat
  brokerFails : Bool
  brokerDelay : Option Nat

namespace Conditions

variable (c : Conditions)

/-- What comes of a confirmation whose call is over: it is delivered if nothing interrupted the
call, no script answered it, and the mail service is here and does not fail. -/
def mailed (interruption : Option Interruption) (isScripted : Bool) (mail : Confirmation) :
    Multiset Delivery :=
  if interruption.isNone && (if isScripted then c.scripted.confirm else none).isNone &&
    c.remoteMail.isNone && !c.mailFails then {.confirmed mail} else 0

/-- What comes of a message that need not be waited for any longer: it is delivered if nothing
interrupted it, no script answered it, and the broker does not fail. -/
def accepted (interruption : Option Interruption) (isScripted : Bool) (notice : Notice) :
    Multiset Delivery :=
  if interruption.isNone && (if isScripted then c.scripted.send else none).isNone &&
    !c.brokerFails then {.announced notice} else 0

/-- How long a confirmation takes. -/
def confirmDelay : Nat :=
  if c.scripted.confirm.isSome then 0 else if c.remoteMail.isSome then 0 else c.mailDelay.getD 0

/-- How long a message takes. -/
def sendDelay : Nat :=
  if c.scripted.send.isSome then 0 else c.brokerDelay.getD 0

/-- What interrupts a confirmation that is sent now on behalf of a caller with these limits. -/
def confirmInterruption (limits : Limits) (now : Nat) : Option Interruption :=
  ((limits.fate now (some (now + c.confirmDelay))).ending now (now + c.confirmDelay)).2

/-- What interrupts an announcement that has no limits but its own. -/
def sendInterruption : Option Interruption :=
  if c.sendDelay ≤ c.settings.publishTimeout then none else some .deadlineExceeded

/-- What comes of a number of announcements of an order. -/
def announced (origin : Context) (order : Order) (copies : Nat) : Multiset Delivery :=
  copies • c.accepted c.sendInterruption c.scripted.send.isSome (.of c.settings.topic origin order)

end Conditions

namespace Task

/-- What a task is going to deliver if it begins now. What has been sent is settled already. -/
def forecast (c : Conditions) (now : Nat) : Task → Multiset Delivery
  | .confirmation caller mail none =>
      c.mailed (c.confirmInterruption caller.limits now) c.scripted.confirm.isSome mail
  | .confirmation _ mail (some sent) => c.mailed sent.interruption sent.isScripted mail
  | .announcement caller order copies none => c.announced caller.context order copies
  | .announcement caller order copies (some sent) =>
      c.accepted sent.1.interruption sent.1.isScripted sent.2.notice +
        c.announced caller.context order (copies - 1)

/-- Announcements are made on behalf of a valid span and without the limits of a request. -/
def IsFree : Task → Prop
  | confirmation .. => True
  | announcement caller _ _ _ =>
      caller.limits = .none ∧ ∃ place, caller.context.parent = some place ∧ place.isValid = true

/-- What has been sent does not depend on the time. -/
theorem forecast_of_waits {task : Task} (h : task.due?.isSome = true) (c : Conditions)
    (now later : Nat) : task.forecast c now = task.forecast c later := by
  match task with
  | .confirmation _ _ none => cases h
  | .announcement _ _ _ none => cases h
  | .confirmation _ _ (some _) => rfl
  | .announcement _ _ _ (some _) => rfl

end Task

/-- The time of the task that goes on first is its own. -/
theorem Task.due?_of_earliest? {tasks others : List Task} {due : Nat} {task : Task}
    (h : Task.earliest? tasks = some (due, task, others)) : task.due? = some due := by
  induction tasks generalizing due task others with
  | nil => cases h
  | cons first rest ih =>
      unfold Task.earliest? at h
      split at h
      · cases h
      · rename_i hrest
        cases h
        exact ih hrest
      · rename_i hfirst _
        cases h
        exact hfirst
      · rename_i hfirst hrest
        split at h
        · cases h
          exact ih hrest
        · cases h
          exact hfirst

/-- What tasks are going to deliver together. -/
def forecastOf (c : Conditions) (now : Nat) (tasks : List Task) : Multiset Delivery :=
  (tasks.map (Task.forecast c now)).sum

section

variable (c : Conditions) (now : Nat)

@[simp] theorem forecastOf_nil : forecastOf c now [] = 0 := rfl

@[simp] theorem forecastOf_cons (task : Task) (tasks : List Task) :
    forecastOf c now (task :: tasks) = task.forecast c now + forecastOf c now tasks :=
  List.sum_cons

@[simp] theorem forecastOf_append (first rest : List Task) :
    forecastOf c now (first ++ rest) = forecastOf c now first + forecastOf c now rest := by
  rw [forecastOf, List.map_append, List.sum_append]
  rfl

/-- The order of the tasks does not matter. -/
theorem forecastOf_perm {tasks others : List Task} (h : tasks.Perm others) :
    forecastOf c now tasks = forecastOf c now others :=
  (h.map _).sum_eq

/-- What tasks that wait are going to deliver does not depend on the time. -/
theorem forecastOf_of_waits {tasks : List Task} (h : ∀ task ∈ tasks, task.due?.isSome = true)
    (later : Nat) : forecastOf c now tasks = forecastOf c later tasks :=
  congrArg List.sum (List.map_congr_left fun task htask ↦
    Task.forecast_of_waits (h task htask) c now later)

end

namespace Collaborators

/-- `c.Brings forecast later left` says that between two moments some of what was forecast was
delivered, and that the rest is left. -/
def Brings (c : Collaborators) (forecast : Multiset Delivery) (later : Collaborators)
    (left : Multiset Delivery) : Prop :=
  ∃ (confirmations : List Confirmation) (messages : List Message),
    later.mail.sent = confirmations.foldl RetainedLog.push c.mail.sent ∧
    later.broker.messages = messages.foldl RetainedLog.push c.broker.messages ∧
    ↑(confirmations.map Delivery.confirmed) +
        ↑(messages.map fun m ↦ Delivery.announced m.notice) + left = forecast

namespace Brings

variable {c later last : Collaborators} {forecast left rest : Multiset Delivery}

/-- Where nothing is sent everything is left. -/
theorem of_same (hmail : later.mail.sent = c.mail.sent)
    (hbroker : later.broker.messages = c.broker.messages) (forecast : Multiset Delivery) :
    c.Brings forecast later forecast :=
  ⟨[], [], hmail, hbroker, by simp⟩

/-- What is delivered in two stretches is delivered in one. -/
theorem trans (hfirst : c.Brings forecast later left) (hsecond : later.Brings left last rest) :
    c.Brings forecast last rest := by
  obtain ⟨confirmations, messages, hmail, hbroker, rfl⟩ := hfirst
  obtain ⟨confirmations', messages', hmail', hbroker', rfl⟩ := hsecond
  refine ⟨confirmations ++ confirmations', messages ++ messages', ?_, ?_, ?_⟩
  · rw [hmail', hmail, List.foldl_append]
  · rw [hbroker', hbroker, List.foldl_append]
  · rw [List.map_append, List.map_append, ← Multiset.coe_add, ← Multiset.coe_add]
    ac_rfl

/-- What is forecast besides is left. -/
theorem frame (h : c.Brings forecast later left) (extra : Multiset Delivery) :
    c.Brings (forecast + extra) later (left + extra) := by
  obtain ⟨confirmations, messages, hmail, hbroker, rfl⟩ := h
  exact ⟨confirmations, messages, hmail, hbroker, (add_assoc _ _ _).symm⟩

end Brings

/-- What decides whether confirmations and messages are delivered. -/
def conditions (c : Collaborators) (settings : FollowUpSettings) : Conditions where
  settings := settings
  scripted := c.scripted
  remoteMail := c.remoteMail
  mailFails := c.mail.fails
  mailDelay := c.mail.delay
  brokerFails := c.broker.fails
  brokerDelay := c.broker.delay

/-- No answer changes the conditions. -/
theorem conditions_answer (c : Collaborators) (settings : FollowUpSettings) (request : Request)
    (isScripted : Bool) :
    (c.answer request isScripted).2.conditions settings = c.conditions settings := by
  unfold answer
  split
  · rfl
  · cases request with
    | getCart | getProduct | getQuote | convert | shipOrder | emptyCart => rfl
    | charge amount card diverted =>
        unfold serviceAnswer charge
        dsimp only
        split <;> rfl
    | confirm mail =>
        unfold serviceAnswer confirm
        dsimp only
        split
        · rfl
        · unfold Mail.send
          split <;> rfl

/-- A confirmation that is not interrupted is delivered if the conditions say so. -/
theorem brings_answer_confirm (c : Collaborators) (settings : FollowUpSettings)
    (mail : Confirmation) (isScripted : Bool) :
    c.Brings ((c.conditions settings).mailed none isScripted mail)
      (c.answer (.confirm mail) isScripted).2 0 := by
  have hanswer : (c.answer (.confirm mail) isScripted).2 =
      if (if isScripted then c.scripted.confirm else none).isNone then (c.confirm mail).2
      else c := by
    unfold answer
    cases isScripted with
    | false => rfl
    | true =>
        have hscript : c.scripted.answer? (.confirm mail) = c.scripted.confirm := rfl
        rw [if_pos rfl, if_pos rfl, hscript]
        cases c.scripted.confirm <;> rfl
  rw [hanswer]
  unfold Conditions.mailed conditions
  dsimp only
  cases if isScripted then c.scripted.confirm else none with
  | some reply => exact .of_same rfl rfl 0
  | none =>
      unfold confirm
      cases c.remoteMail with
      | some remote => exact .of_same rfl rfl 0
      | none =>
          unfold Mail.send
          dsimp only
          cases c.mail.fails with
          | true => exact .of_same rfl rfl 0
          | false => exact ⟨[mail], [], rfl, rfl, by simp⟩

/-- No message changes the conditions. -/
theorem conditions_send (c : Collaborators) (settings : FollowUpSettings) (message : Message)
    (isScripted : Bool) :
    (c.send message isScripted).2.conditions settings = c.conditions settings := by
  unfold send
  split
  · rfl
  · unfold Broker.send
    dsimp only
    split <;> rfl

/-- A message that is not interrupted is delivered if the conditions say so. -/
theorem brings_send (c : Collaborators) (settings : FollowUpSettings) (message : Message)
    (isScripted : Bool) :
    c.Brings ((c.conditions settings).accepted none isScripted message.notice)
      (c.send message isScripted).2 0 := by
  unfold send Conditions.accepted conditions
  dsimp only
  cases if isScripted then c.scripted.send else none with
  | some reply => exact .of_same rfl rfl 0
  | none =>
      unfold Broker.send
      dsimp only
      cases c.broker.fails with
      | true => exact .of_same rfl rfl 0
      | false => exact ⟨[], [message], rfl, rfl, by simp⟩

/-- `c.DeliversAlike later other` says that since a moment the same confirmations were sent and the
same notices given in two runs, whatever the order, the times, and the numbers of the spans. -/
def DeliversAlike (c later other : Collaborators) : Prop :=
  ∃ (sent sent' : List Confirmation) (messages messages' : List Message),
    later.mail.sent = sent.foldl RetainedLog.push c.mail.sent ∧
    other.mail.sent = sent'.foldl RetainedLog.push c.mail.sent ∧
    later.broker.messages = messages.foldl RetainedLog.push c.broker.messages ∧
    other.broker.messages = messages'.foldl RetainedLog.push c.broker.messages ∧
    sent.Perm sent' ∧ (messages.map Message.notice).Perm (messages'.map Message.notice)

/-- Where the same was forecast the same is delivered. -/
theorem deliversAlike_of_brings {c later other : Collaborators} {forecast : Multiset Delivery}
    (h : c.Brings forecast later 0) (hother : c.Brings forecast other 0) :
    c.DeliversAlike later other := by
  obtain ⟨sent, messages, hmail, hbroker, hforecast⟩ := h
  obtain ⟨sent', messages', hmail', hbroker', hforecast'⟩ := hother
  have hmap : ∀ messages : List Message, (messages.map fun m ↦ Delivery.announced m.notice) =
      (messages.map Message.notice).map Delivery.announced := fun messages ↦
    List.map_map.symm
  have hperm : (sent.map Delivery.confirmed ++
        (messages.map Message.notice).map Delivery.announced).Perm
      (sent'.map Delivery.confirmed ++
        (messages'.map Message.notice).map Delivery.announced) := by
    rw [← hmap, ← hmap, ← Multiset.coe_eq_coe, ← Multiset.coe_add, ← Multiset.coe_add]
    rw [add_zero] at hforecast hforecast'
    exact hforecast.trans hforecast'.symm
  have hconfirmed := hperm.filterMap Delivery.confirmed?
  have hannounced := hperm.filterMap Delivery.announced?
  rw [(Delivery.filterMap_delivered ..).1, (Delivery.filterMap_delivered ..).1] at hconfirmed
  rw [(Delivery.filterMap_delivered ..).2, (Delivery.filterMap_delivered ..).2] at hannounced
  exact ⟨sent, sent', messages, messages', hmail, hmail', hbroker, hbroker', hconfirmed, hannounced⟩

end Collaborators

end Storefront
