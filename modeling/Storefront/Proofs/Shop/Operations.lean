import Storefront.Proofs.Shop.Ledger
import Storefront.Proofs.Shop.Stores

/-!
# Operations of the background

The ledger of everything that goes on in the background. A task that has not begun owes its duties;
one that waits has an operation under way. `send_goes` and `beginAnnouncement_goes` start an
operation, `settle_performs` and `endCopy_goes` finish one, and each function of the background is
put together from these, up to `waitUntil_goes` and `drain_goes`.
-/

namespace Storefront

/-- What is still to be done for a task. -/
def Task.load : Task → Load
  | .confirmation caller c none => ({.ask caller.context (.confirm c)}, 0)
  | .confirmation caller c (some sent) =>
      (0, {⟨caller.context, sent.span, .ask (.confirm c), sent.interruption⟩})
  | .announcement caller order copies none =>
      (.replicate copies (.announce caller.context order), 0)
  | .announcement caller order copies (some sent) =>
      (.replicate (copies - 1) (.announce caller.context order),
        {⟨caller.context, sent.1.span, .announce order sent.2, none⟩})

/-- What is still to be done for tasks together. -/
def loadOf (tasks : List Task) : Load :=
  (tasks.map Task.load).sum

@[simp] theorem loadOf_nil : loadOf [] = 0 := rfl

@[simp] theorem loadOf_cons (task : Task) (tasks : List Task) :
    loadOf (task :: tasks) = task.load + loadOf tasks :=
  List.sum_cons

@[simp] theorem loadOf_append (first rest : List Task) :
    loadOf (first ++ rest) = loadOf first + loadOf rest := by
  rw [loadOf, List.map_append, List.sum_append]
  rfl

/-- The order of the tasks does not matter. -/
theorem loadOf_perm {tasks others : List Task} (h : tasks.Perm others) :
    loadOf tasks = loadOf others :=
  (h.map Task.load).sum_eq

/-- Work that is not interrupted is started. -/
theorem Fate.isStarted_of_ending {fate : Fate} {now ready : Nat}
    (h : (fate.ending now ready).2 = none) : fate.isStarted = true := by
  cases fate with
  | refused => cases h
  | ends | never => rfl

namespace Collaborators

/-- An answer does not change who is there to hear of requests. -/
theorem hears_answer (c : Collaborators) (request : Request) (isScripted : Bool) :
    (c.answer request isScripted).2.hears = c.hears := by
  unfold answer
  split
  · rfl
  · cases request with
    | getCart | getProduct | getQuote | convert | shipOrder | emptyCart => rfl
    | charge amount card diverted => cases diverted <;> rfl
    | confirm confirmation =>
        unfold serviceAnswer confirm
        split <;> rfl

/-- Nor does a message. -/
theorem hears_send (c : Collaborators) (message : Message) (isScripted : Bool) :
    (c.send message isScripted).2.hears = c.hears := by
  unfold send
  split <;> rfl

/-- Services keep the confirmations that they have delivered, and nothing else is sent by a call. -/
theorem sent_answer (c : Collaborators) (h : c.scripted = .none) (request : Request)
    (isScripted : Bool) :
    (c.answer request isScripted).2.scripted = .none ∧
      (c.answer request isScripted).2.broker = c.broker ∧
      (c.answer request isScripted).2.mail.sent =
        (Call.confirmed? ⟨request, (request.accept (c.answer request isScripted).1).mapError
          .transport⟩).toList.foldl RetainedLog.push c.mail.sent := by
  have hscripted : (c.answer request isScripted).2.scripted = .none := by
    rw [answer_eq_serviceAnswer c h]
    have hstores := congrArg Collaborators.scripted (c.stores_serviceAnswer request)
    rw [scripted_after] at hstores
    exact hstores.trans h
  cases request with
  | confirm confirmation =>
      refine ⟨hscripted, ?_⟩
      rw [answer_eq_serviceAnswer c h]
      unfold serviceAnswer confirm Mail.send
      dsimp only
      split
      · exact ⟨rfl, rfl⟩
      split <;> exact ⟨rfl, rfl⟩
  | getCart | getProduct | getQuote | convert | charge | shipOrder | emptyCart =>
      refine ⟨hscripted, (c.outbox_answer ?_ isScripted).2,
        congrArg Mail.sent (c.outbox_answer ?_ isScripted).1⟩ <;> nofun

/-- The broker keeps the messages that it has accepted, and nothing else is sent by a message. -/
theorem sent_send (c : Collaborators) (h : c.scripted = .none) (message : Message)
    (isScripted : Bool) :
    (c.send message isScripted).2.scripted = .none ∧
      (c.send message isScripted).2.mail = c.mail ∧
      (c.send message isScripted).2.broker.messages =
        (if (c.send message isScripted).1.isOk then [message] else []).foldl RetainedLog.push
          c.broker.messages := by
  have hnone : (if isScripted then c.scripted.send else none) = none := by
    rw [h]
    cases isScripted <;> rfl
  unfold send
  rw [hnone]
  unfold Broker.send
  dsimp only
  split <;> exact ⟨h, rfl, rfl⟩

end Collaborators

namespace Shop

variable (fixed : Prop)

/-- What a service hears of a request is whose it is, if the request arrives there. -/
theorem exists_hear_eq (shop : Shop) (request : Request) (context : Context) :
    ∃ heard : Option CallRecord,
      shop.hear request context =
        { shop with calls := heard.toList.foldl CallLog.entered shop.calls } ∧
      heard.isSome = shop.collaborators.hears request ∧
      ∀ record ∈ heard, record.service = request.service ∧ record.method = request.method ∧
        context.Arrives record.context := by
  obtain ⟨hcall, hfields, -⟩ := Carrier.extract_inject_arrives context
  have hmetadata : ∀ record ∈ some (⟨request.service, request.method,
      extract (inject context CallMetadata.empty)⟩ : CallRecord),
      record.service = request.service ∧ record.method = request.method ∧
        context.Arrives record.context := by
    rintro record ⟨⟩
    exact ⟨rfl, rfl, hcall⟩
  unfold hear
  split
  · rename_i hhears
    rw [hhears]
    cases request with
    | confirm confirmation =>
        refine ⟨some ⟨_, _, extract (inject context HeaderFields.empty)⟩, rfl, rfl, ?_⟩
        rintro record ⟨⟩
        exact ⟨rfl, rfl, hfields⟩
    | getCart | getProduct | getQuote | convert | charge | shipOrder | emptyCart =>
        exact ⟨_, rfl, rfl, hmetadata⟩
  · rename_i hdeaf
    exact ⟨none, rfl, (Bool.eq_false_of_not_eq_true hdeaf).symm, nofun⟩

/-- What the service of a request hears at the start of a call: whose it is, if it hears of it, and
nothing is missed but a call that is interrupted. -/
theorem exists_send_eq (shop : Shop) (caller : Caller) (request : Request) :
    ∃ heard : Option CallRecord,
      (shop.send caller request).2.books =
        { shop.books with calls := heard.toList.foldl CallLog.entered shop.calls } ∧
      (heard.isSome = true → shop.collaborators.hears request = true) ∧
      ((shop.send caller request).1.interruption = none →
        heard.isSome = shop.collaborators.hears request) ∧
      ∀ record ∈ heard, record.service = request.service ∧ record.method = request.method ∧
        (caller.context.withParent (shop.send caller request).1.span.context).Arrives
          record.context := by
  unfold send
  dsimp only
  split
  · obtain ⟨heard, heq, hhears, hsound⟩ := exists_hear_eq _ request _
    exact ⟨heard, congrArg books heq, hhears.symm.trans, fun _ ↦ hhears, hsound⟩
  · rename_i hrefused
    refine ⟨none, rfl, nofun, fun hanswered ↦ ?_, nofun⟩
    exact absurd (Fate.isStarted_of_ending hanswered) hrefused

/-- The start of a call starts an operation on behalf of its caller. -/
theorem send_goes (shop : Shop) (caller : Caller) (request : Request) :
    shop.books.Goes fixed ({.ask caller.context request}, 0) [] (shop.send caller request).2.books
      (0, {⟨caller.context, (shop.send caller request).1.span, .ask request,
        (shop.send caller request).1.interruption⟩}) := by
  have hbegins : (shop.send caller request).1.span.Begins
      (request.service ++ "/" ++ request.method) .client caller.context.parent :=
    (shop.tracer.start_begins _ _ _).of_grows (.setAttributes _ _)
  obtain ⟨heard, hbooks, hthere, hanswered, hsound⟩ := shop.exists_send_eq caller request
  refine ⟨[⟨⟨caller.context, _, .ask request, _⟩, heard⟩], [], ?_, ⟨rfl, rfl⟩, rfl⟩
  rw [hbooks]
  exact {
    Books.Performs.refl shop.books with
    calls_eq := by cases heard <;> rfl
    started_sound := by
      rw [List.forall_mem_singleton]
      refine ⟨hbegins, fun record hrecord ↦ ⟨request, rfl, hsound record hrecord⟩, ?_⟩
      rintro _ _ ⟨⟩
    started_heard := by
      rw [List.forall_mem_singleton]
      rintro - _ ⟨⟩
      exact ⟨hthere, hanswered⟩ }

/-- A call is interrupted at its end by what was fixed at its start. -/
theorem interruption?_settle (shop : Shop) (request : Request) (sent : Sent) :
    Call.interruption? ⟨request, (shop.settle request sent).1⟩ = sent.interruption := by
  obtain ⟨span, hsettle⟩ := shop.exists_settle_eq request sent
  rw [hsettle]
  unfold answerUnless
  cases sent.interruption with
  | some reason => rfl
  | none =>
      unfold answer
      dsimp only
      cases request.accept (shop.collaborators.answer request sent.isScripted).1 <;> rfl

/-- The end of a call finishes its operation, whatever is counted besides. -/
theorem settle_performs (shop : Shop) (origin : Context) (request : Request) (sent : Sent)
    (metrics : Metrics) (hmetrics : ∀ step, step ≠ .emptyCart →
      metrics.count (.stepFailed step) = shop.metrics.count (.stepFailed step) +
        (Call.setback? ⟨request, (shop.settle request sent).1⟩).toList.count step) :
    ∃ last, shop.books.Performs fixed []
      [⟨origin, sent.span, .asked ⟨request, (shop.settle request sent).1⟩, last⟩]
      { (shop.settle request sent).2.books with metrics := metrics } := by
  have houtbox : shop.collaborators.scripted = .none →
      (shop.answerUnless request sent).2.collaborators.scripted = .none ∧
      (shop.answerUnless request sent).2.collaborators.broker = shop.collaborators.broker ∧
      (shop.answerUnless request sent).2.collaborators.mail.sent =
        (Call.confirmed? ⟨request, (shop.answerUnless request sent).1⟩).toList.foldl
          RetainedLog.push shop.collaborators.mail.sent := by
    intro hscripted
    unfold answerUnless
    cases sent.interruption with
    | some reason => exact ⟨hscripted, rfl, by cases request <;> rfl⟩
    | none => exact shop.collaborators.sent_answer hscripted request sent.isScripted
  have hsame : (shop.answerUnless request sent).2.books =
      { shop.books with
        collaborators := (shop.answerUnless request sent).2.collaborators } := by
    unfold answerUnless
    cases sent.interruption <;> rfl
  have hspan : ∃ last, sent.span.EndsAs (!(shop.settle request sent).1.isOk) last ∧
      shop.settle request sent = ((shop.answerUnless request sent).1,
        (shop.answerUnless request sent).2.finishSpan last) := by
    unfold settle
    split
    · rename_i h
      exact ⟨sent.span, .done (.refl _), by rw [h]⟩
    · rename_i failure _ h
      exact ⟨sent.span.fail failure.message, .failed (.refl _) failure.message, by rw [h]⟩
  obtain ⟨last, hends, hsettle⟩ := hspan
  rw [hsettle] at hends hmetrics ⊢
  refine ⟨last, .of_finished hends ?_ ?_ hmetrics fun hscripted ↦ ?_⟩
  · exact congrArg (fun b : Books ↦
      { b with spans := b.spans ++ last.record?.toList, metrics := metrics }) hsame
  · show (shop.answerUnless request sent).2.collaborators.hears = shop.collaborators.hears
    unfold answerUnless
    cases sent.interruption with
    | some reason => rfl
    | none => exact shop.collaborators.hears_answer request sent.isScripted
  · obtain ⟨hnone, hbroker, hsent⟩ := houtbox hscripted
    exact ⟨hnone, hsent, congrArg Broker.messages hbroker⟩

/-- The end of a call measures nothing. -/
theorem metrics_settle (shop : Shop) (request : Request) (sent : Sent) :
    (shop.settle request sent).2.metrics = shop.metrics := by
  obtain ⟨span, hsettle⟩ := shop.exists_settle_eq request sent
  rw [hsettle]
  unfold answerUnless
  cases sent.interruption <;> rfl

/-- The end of a call that is needed for an order finishes its operation. -/
theorem settle_goes (shop : Shop) (origin : Context) {request : Request}
    (hstep : request.step ≠ .sendConfirmation) (sent : Sent) :
    shop.books.Goes fixed (0, {⟨origin, sent.span, .ask request, sent.interruption⟩})
      [.asked ⟨request, (shop.settle request sent).1⟩] (shop.settle request sent).2.books 0 := by
  have hquiet : ∀ answer, Call.setback? ⟨request, answer⟩ = none := by
    intro answer
    cases request with
    | confirm => exact absurd rfl hstep
    | getCart | getProduct | getQuote | convert | charge | shipOrder | emptyCart => rfl
  obtain ⟨last, hperforms⟩ := shop.settle_performs fixed origin request sent
    (shop.settle request sent).2.metrics fun step _ ↦ by rw [metrics_settle, hquiet]; rfl
  refine ⟨[], _, hperforms, ⟨rfl, ?_⟩, ?_⟩
  · rw [← shop.interruption?_settle request sent]
    rfl
  · rw [filterMap_singleton]
    exact congrArg Option.toList (if_neg hstep)

/-- The end of a confirmation finishes its operation. -/
theorem endConfirmation_goes (shop : Shop) (origin : Context) (confirmation : Confirmation)
    (sent : Sent) :
    shop.books.Goes fixed
      (0, {⟨origin, sent.span, .ask (.confirm confirmation), sent.interruption⟩}) []
      (shop.endConfirmation confirmation sent).books 0 := by
  have hmetrics := shop.metrics_settle (.confirm confirmation) sent
  have hperforms := shop.settle_performs fixed origin (.confirm confirmation) sent
  have hdone : ∃ last, shop.books.Performs fixed []
      [⟨origin, sent.span,
        .asked ⟨.confirm confirmation, (shop.settle (.confirm confirmation) sent).1⟩, last⟩]
      (shop.endConfirmation confirmation sent).books := by
    unfold endConfirmation
    rcases hsettle : shop.settle (.confirm confirmation) sent with ⟨answer, next⟩
    rw [hsettle] at hmetrics hperforms
    cases answer with
    | ok accepted =>
        obtain ⟨last, h⟩ := hperforms next.metrics fun step _ ↦ by rw [hmetrics]; rfl
        exact ⟨last, h⟩
    | error failure =>
        -- The failure is counted after the call has ended.
        obtain ⟨last, h⟩ := hperforms (.stepFailed .sendConfirmation :: next.metrics)
          fun step _ ↦ by
            rw [Metrics.count_stepFailed, hmetrics]
            rfl
        exact ⟨last, h⟩
  obtain ⟨last, hperforms⟩ := hdone
  refine ⟨[], _, hperforms, ⟨rfl, ?_⟩, rfl⟩
  rw [← shop.interruption?_settle (.confirm confirmation) sent]
  rfl

/-- The start of a confirmation fulfils its duty, or an operation waits. -/
theorem confirm_goes (shop : Shop) (caller : Caller) (confirmation : Confirmation) :
    shop.books.Goes fixed ({.ask caller.context (.confirm confirmation)}, 0) []
      (shop.confirm caller confirmation).2.books
      (loadOf (shop.confirm caller confirmation).1.toList) := by
  have hsend := shop.send_goes fixed caller (.confirm confirmation)
  unfold confirm
  dsimp only
  split
  · simpa [Task.load] using hsend
  · exact hsend.trans_quiet (endConfirmation_goes fixed _ caller.context confirmation _)

/-- The start of an announcement starts an operation, whose message is about the order. -/
theorem beginAnnouncement_goes (shop : Shop) (caller : Caller) (order : Order) :
    shop.books.Goes fixed ({.announce caller.context order}, 0) []
      (shop.beginAnnouncement caller order).2.books
      (0, {⟨caller.context, (shop.beginAnnouncement caller order).1.1.span,
        .announce order (shop.beginAnnouncement caller order).1.2, none⟩}) := by
  have hbegins : (shop.beginAnnouncement caller order).1.1.span.Begins
      (shop.settings.topic ++ " publish") .producer caller.context.parent :=
    (shop.tracer.start_begins _ _ _).of_grows (.setAttributes _ _)
  have hmessage : (shop.beginAnnouncement caller order).1.2.Announces shop.settings.topic order :=
    ⟨rfl, rfl, _, PlacedEvent.document_text ⟨order, .ofMillis shop.clock⟩⟩
  have harrives := Carrier.isFaithful_recordHeaders.arrives
    (caller.context.withParent (shop.beginAnnouncement caller order).1.1.span.context)
  refine ⟨[⟨⟨caller.context, _, .announce order _, none⟩, none⟩], [], ?_, ⟨rfl, rfl⟩, rfl⟩
  exact {
    Books.Performs.refl shop.books with
    started_sound := by
      rw [List.forall_mem_singleton]
      refine ⟨hbegins, nofun, ?_⟩
      rintro _ _ ⟨⟩
      exact ⟨hmessage, harrives⟩
    started_heard := by
      rw [List.forall_mem_singleton]
      rintro - _ ⟨⟩ }

/-- What comes of a message: the broker keeps it if it is accepted, and nothing else is sent. -/
theorem sent_deliverUnless (shop : Shop) (h : shop.collaborators.scripted = .none)
    (message : Message) (sent : Sent) :
    (shop.deliverUnless message sent).2.collaborators.scripted = .none ∧
      (shop.deliverUnless message sent).2.collaborators.mail = shop.collaborators.mail ∧
      (shop.deliverUnless message sent).2.collaborators.broker.messages =
        (if (shop.deliverUnless message sent).1.isOk then [message] else []).foldl
          RetainedLog.push shop.collaborators.broker.messages := by
  unfold deliverUnless
  cases sent.interruption with
  | some reason => exact ⟨h, rfl, rfl⟩
  | none => exact shop.collaborators.sent_send h message sent.isScripted

/-- The end of an announcement finishes its operation, and a failure is counted. -/
theorem endCopy_goes (shop : Shop) (origin : Context) (order : Order) (sent : Sent × Message) :
    shop.books.Goes fixed (0, {⟨origin, sent.1.span, .announce order sent.2, none⟩}) []
      (shop.endCopy sent).books 0 := by
  have houtbox := fun h ↦ shop.sent_deliverUnless h sent.2 sent.1
  have hsame : (shop.deliverUnless sent.2 sent.1).2.books =
      { shop.books with
        collaborators := (shop.deliverUnless sent.2 sent.1).2.collaborators } := by
    unfold deliverUnless
    cases sent.1.interruption <;> rfl
  have hhears : (shop.deliverUnless sent.2 sent.1).2.collaborators.hears =
      shop.collaborators.hears := by
    unfold deliverUnless
    cases sent.1.interruption with
    | some reason => rfl
    | none => exact shop.collaborators.hears_send sent.2 sent.1.isScripted
  have hperforms : ∃ last result, shop.books.Performs fixed []
      [⟨origin, sent.1.span, .announced order sent.2 result, last⟩]
      (shop.endCopy sent).books := by
    unfold endCopy endAnnouncement
    rcases hdeliver : shop.deliverUnless sent.2 sent.1 with ⟨reply, next⟩
    rw [hdeliver] at houtbox hsame hhears
    have hmetrics : next.metrics = shop.metrics := congrArg Books.metrics hsame
    cases reply with
    | ok receipt =>
        have hends := Span.EndsAs.done (.setAttributes sent.1.span (receiptFacts receipt))
        refine ⟨_, .ok receipt, .of_finished hends ?_ hhears ?_ fun hscripted ↦ ?_⟩
        · exact (congrArg (fun b : Books ↦ { b with
            spans := b.spans ++ (sent.1.span.setAttributes (receiptFacts receipt)).record?.toList
            metrics := .eventDelivered :: next.metrics }) hsame :)
        · intro step _
          show List.count _ (.eventDelivered :: next.metrics) = _
          rw [List.count_cons_of_ne (by simp), hmetrics]
          rfl
        · obtain ⟨hnone, hmail, hmessages⟩ := houtbox hscripted
          exact ⟨hnone, congrArg Mail.sent hmail, hmessages⟩
    | error error =>
        have hends := Span.EndsAs.failed (.refl sent.1.span)
          (BestEffortError.eventPublishFailed error).message
        refine ⟨_, .error (.eventPublishFailed error), .of_finished hends ?_ hhears ?_
          fun hscripted ↦ ?_⟩
        · exact (congrArg (fun b : Books ↦ { b with
            spans := b.spans ++ (sent.1.span.fail
              (BestEffortError.eventPublishFailed error).message).record?.toList
            metrics := .stepFailed .publishEvent :: .eventFailed :: next.metrics }) hsame :)
        · intro step _
          show List.count _ (.stepFailed .publishEvent :: .eventFailed :: next.metrics) = _
          rw [Metrics.count_stepFailed, List.count_cons_of_ne (by simp), hmetrics]
          rfl
        · obtain ⟨hnone, hmail, hmessages⟩ := houtbox hscripted
          exact ⟨hnone, congrArg Mail.sent hmail, hmessages⟩
  obtain ⟨last, result, hperforms⟩ := hperforms
  exact ⟨[], _, hperforms, ⟨rfl, rfl⟩, rfl⟩

/-- Announcements of an order fulfil their duties one after the other, and the others are left. -/
theorem announceAll_goes (shop : Shop) (caller : Caller) (order : Order) (copies : Nat) :
    shop.books.Goes fixed (.replicate copies (.announce caller.context order), 0) []
      (shop.announceAll caller order copies).2.books
      (loadOf (shop.announceAll caller order copies).1.toList) := by
  induction copies generalizing shop with
  | zero => exact .refl _ _
  | succ copies ih =>
      -- The first announcement is begun while the others are still owed.
      have hbegin := (shop.beginAnnouncement_goes fixed caller order).frame
        (.replicate copies (.announce caller.context order), 0)
      rw [Prod.mk_add_mk, Prod.mk_add_mk, Multiset.singleton_add, ← Multiset.replicate_succ,
        zero_add, zero_add, add_zero] at hbegin
      unfold announceAll
      dsimp only
      split
      · simpa [Task.load] using hbegin
      · have hend := (endCopy_goes fixed (shop.beginAnnouncement caller order).2 caller.context
          order (shop.beginAnnouncement caller order).1).frame
            (.replicate copies (.announce caller.context order), 0)
        rw [Prod.mk_add_mk, zero_add, add_zero, zero_add] at hend
        exact (hbegin.trans_quiet hend).trans_quiet (ih _)

/-- A task that goes on does what is to be done for it, or leaves it. -/
theorem resume_goes (shop : Shop) (task : Task) :
    shop.books.Goes fixed task.load [] (shop.resume task).2.books
      (loadOf (shop.resume task).1.toList) := by
  match task with
  | .confirmation caller confirmation none => exact shop.confirm_goes fixed caller confirmation
  | .confirmation caller confirmation (some sent) =>
      exact shop.endConfirmation_goes fixed caller.context confirmation sent
  | .announcement caller order copies none => exact shop.announceAll_goes fixed caller order copies
  | .announcement caller order copies (some sent) =>
      have hend := (shop.endCopy_goes fixed caller.context order sent).frame
        (.replicate (copies - 1) (.announce caller.context order), 0)
      rw [Prod.mk_add_mk, zero_add, add_zero, zero_add] at hend
      exact hend.trans_quiet (announceAll_goes fixed _ caller order (copies - 1))

/-- A task that goes on does what is to be done for it, and is kept if it is not over. -/
theorem run_goes (shop : Shop) (task : Task) :
    shop.books.Goes fixed (loadOf shop.tasks + task.load) [] (shop.run task).books
      (loadOf (shop.run task).tasks) := by
  have hgoes := (shop.resume_goes fixed task).frame (loadOf shop.tasks)
  have htasks : (shop.resume task).2.tasks = shop.tasks := (shop.resume_serves task).tasks_eq
  rw [add_comm, add_comm _ (loadOf shop.tasks), ← htasks, ← loadOf_append] at hgoes
  rw [← htasks]
  unfold run
  rcases h : shop.resume task with ⟨_ | waiting, next⟩
  · rw [h, Option.toList_none, List.append_nil] at hgoes
    exact hgoes
  · rw [h] at hgoes
    exact hgoes

/-- Tasks that go on one after the other do what is to be done for them. -/
theorem foldl_run_goes (shop : Shop) (tasks : List Task) :
    shop.books.Goes fixed (loadOf shop.tasks + loadOf tasks) [] (tasks.foldl run shop).books
      (loadOf (tasks.foldl run shop).tasks) := by
  induction tasks generalizing shop with
  | nil =>
      rw [loadOf_nil, add_zero]
      exact .refl _ _
  | cons task rest ih =>
      rw [loadOf_cons, ← add_assoc]
      exact ((shop.run_goes fixed task).frame (loadOf rest)).trans_quiet (ih (shop.run task))

/-- Tasks that begin do what is to be done for them. -/
theorem runFresh_goes (shop : Shop) :
    shop.books.Goes fixed (loadOf shop.tasks) [] shop.runFresh.books
      (loadOf shop.runFresh.tasks) := by
  unfold runFresh
  rw [List.partition_eq_filter_filter,
    ← loadOf_perm (List.filter_append_perm (fun t ↦ t.due?.isSome) shop.tasks), loadOf_append]
  exact foldl_run_goes fixed { shop with tasks := shop.tasks.filter fun t ↦ t.due?.isSome } _

/-- Waiting tasks that go on in the order of their times do what is to be done for them. -/
theorem runDue_goes (isDue : Nat → Bool) (steps : Nat) (shop : Shop) :
    shop.books.Goes fixed (loadOf shop.tasks) [] (runDue isDue steps shop).books
      (loadOf (runDue isDue steps shop).tasks) := by
  induction steps generalizing shop with
  | zero => exact .refl _ _
  | succ steps ih =>
      unfold runDue
      split
      · exact .refl _ _
      · rename_i due task others h
        split
        · rw [loadOf_perm (perm_of_earliest? h), loadOf_cons, add_comm]
          exact (run_goes fixed { shop with clock := max shop.clock due, tasks := others }
            task).trans_quiet (ih _)
        · exact .refl _ _

/-- All tasks that can go on do what is to be done for them. -/
theorem settleDown_goes (shop : Shop) :
    shop.books.Goes fixed (loadOf shop.tasks) [] shop.settleDown.books
      (loadOf shop.settleDown.tasks) :=
  (runDue_goes fixed _ _ shop).trans_quiet (runFresh_goes fixed _)

/-- While something waits, tasks do what is to be done for them. -/
theorem waitUntil_goes (shop : Shop) (moment : Nat) :
    shop.books.Goes fixed (loadOf shop.tasks) [] (shop.waitUntil moment).books
      (loadOf (shop.waitUntil moment).tasks) := by
  unfold waitUntil
  split
  · exact .refl _ _
  · exact (shop.settleDown_goes fixed).trans_quiet (runDue_goes fixed _ _ _)

/-- Until no task is left, tasks do what is to be done for them. -/
theorem drain_goes (shop : Shop) :
    shop.books.Goes fixed (loadOf shop.tasks) [] shop.drain.2.books
      (loadOf shop.drain.2.tasks) := by
  unfold drain
  dsimp only
  split
  · exact .refl _ _
  · exact (shop.settleDown_goes fixed).trans_quiet (runDue_goes fixed _ _ _)

end Shop

end Storefront
