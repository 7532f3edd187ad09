import Storefront.Proofs.Call.Limits
import Storefront.Proofs.Shop.Boundary
import Storefront.Proofs.Shop.OneTrace

/-!
# What comes of an announcement

Whoever announces an order and waits is told where the message is, or why it was not delivered.
Four instants decide that, and `ComesFirst` says which: the cancellation, the deadline, the answer
of the broker, or the end of the time that an announcement has for itself. The main theorem,
`announce_tells`, says that a receipt is given exactly if one message was added, about the order and
on behalf of the span of the announcement, and that otherwise nothing was added.
-/

namespace Storefront

/-- Work with a time limit of its own is over at the instant that comes first. -/
theorem Limits.comesFirst_orTimeout (limits : Limits) {now ready : Nat} (timeout : Nat)
    (hready : now ≤ ready) :
    ComesFirst (Shop.orTimeout timeout ((limits.fate now (some ready)).ending now ready))
      (limits.instants now ready ++ [(timeout, some .deadlineExceeded)]) := by
  have hending := limits.comesFirst_ending hready
  unfold Shop.orTimeout
  split
  · rename_i hle
    exact hending.append hle
  · rename_i hlt
    exact hending.last (Nat.lt_of_not_le hlt)

namespace Shop

/-- `waiting.Concludes message interruption outcome final` says what comes of a message at the
moment at which its announcement is over: unless an interruption came first it is added to the
messages, or the broker refuses it; otherwise it is not sent. -/
inductive Concludes (waiting : Shop) (message : Message) :
    Option Interruption → Except BestEffortError Receipt → Shop → Prop where
  | delivered {final} : waiting.collaborators.broker.fails = false →
      final.collaborators.broker.messages =
        waiting.collaborators.broker.messages.push message →
      Concludes waiting message none
        (.ok ⟨some 0, some waiting.collaborators.broker.messages.total⟩) final
  | unavailable {final} : waiting.collaborators.broker.fails = true →
      final.collaborators.broker.messages = waiting.collaborators.broker.messages →
      Concludes waiting message none
        (.error (.eventPublishFailed (.unavailable "broker unreachable"))) final
  | cancelled {final} :
      final.collaborators.broker.messages = waiting.collaborators.broker.messages →
      Concludes waiting message (some .cancelled)
        (.error (.eventPublishFailed .cancelled)) final
  | overdue {final} :
      final.collaborators.broker.messages = waiting.collaborators.broker.messages →
      Concludes waiting message (some .deadlineExceeded)
        (.error (.eventPublishFailed .deadlineExceeded)) final

namespace Concludes

variable {waiting final : Shop} {message : Message} {interruption : Option Interruption}
  {outcome : Except BestEffortError Receipt}

/-- There is a receipt exactly if one message was added. -/
theorem isOk_iff (h : waiting.Concludes message interruption outcome final) :
    outcome.isOk = true ↔ final.collaborators.broker.messages.total =
      waiting.collaborators.broker.messages.total + 1 := by
  cases h with
  | delivered _ hadded =>
      rw [hadded]
      exact ⟨fun _ ↦ rfl, fun _ ↦ rfl⟩
  | unavailable _ hsame | cancelled hsame | overdue hsame =>
      rw [hsame]
      exact ⟨nofun, fun h ↦ absurd h (by omega)⟩

/-- There is none exactly if the messages are as before. -/
theorem isOk_eq_false_iff (h : waiting.Concludes message interruption outcome final) :
    outcome.isOk = false ↔
      final.collaborators.broker.messages = waiting.collaborators.broker.messages := by
  cases h with
  | delivered _ hadded =>
      refine ⟨nofun, fun hsame ↦ ?_⟩
      have htotal := congrArg RetainedLog.total (hadded.symm.trans hsame)
      exact absurd htotal (Nat.succ_ne_self _)
  | unavailable _ hsame | cancelled hsame | overdue hsame => exact ⟨fun _ ↦ hsame, fun _ ↦ rfl⟩

end Concludes

/-- A broker that answers for itself adds a message or refuses it, unless an interruption came
first. -/
theorem deliverUnless_concludes (waiting : Shop)
    (hscripted : waiting.collaborators.scripted = .none) (sent : Sent) (message : Message)
    (last : Shop)
    (hlast : last.collaborators = (waiting.deliverUnless message sent).2.collaborators) :
    waiting.Concludes message sent.interruption
      ((waiting.deliverUnless message sent).1.mapError .eventPublishFailed) last := by
  have hnone : (if sent.isScripted then waiting.collaborators.scripted.send else none) = none := by
    rw [hscripted]
    exact ite_self _
  unfold deliverUnless at hlast ⊢
  cases hinterruption : sent.interruption with
  | some reason =>
      rw [hinterruption] at hlast
      have hsame := congrArg (fun c : Collaborators ↦ c.broker.messages) hlast
      cases reason with
      | cancelled => exact .cancelled hsame
      | deadlineExceeded => exact .overdue hsame
  | none =>
      rw [hinterruption] at hlast
      dsimp only at hlast ⊢
      unfold deliver Collaborators.send at hlast ⊢
      rw [hnone] at hlast ⊢
      dsimp only at hlast ⊢
      unfold Broker.send at hlast ⊢
      cases hfails : waiting.collaborators.broker.fails with
      | true =>
          rw [hfails, if_pos rfl] at hlast
          exact .unavailable hfails (congrArg (fun c : Collaborators ↦ c.broker.messages) hlast)
      | false =>
          rw [hfails, if_neg Bool.false_ne_true] at hlast
          exact .delivered hfails (congrArg (fun c : Collaborators ↦ c.broker.messages) hlast)

/-- At the end of an announcement what comes of its message is recorded on its span. -/
theorem endAnnouncement_concludes (waiting : Shop)
    (hscripted : waiting.collaborators.scripted = .none) (sent : Sent) (message : Message) :
    ∃ last, sent.span.EndsAs (!(waiting.endAnnouncement sent message).1.isOk) last ∧
      (waiting.endAnnouncement sent message).2.spans = waiting.spans ++ last.record?.toList ∧
      waiting.Concludes message sent.interruption (waiting.endAnnouncement sent message).1
        (waiting.endAnnouncement sent message).2 := by
  have hspans : (waiting.deliverUnless message sent).2.spans = waiting.spans := by
    unfold deliverUnless
    cases sent.interruption <;> rfl
  have hconcludes := waiting.deliverUnless_concludes hscripted sent message
  unfold endAnnouncement
  rcases hdeliver : waiting.deliverUnless message sent with ⟨error | receipt, after⟩
  · rw [hdeliver] at hspans hconcludes
    refine ⟨_, .failed (.refl _) (BestEffortError.eventPublishFailed error).message, ?_,
      hconcludes _ rfl⟩
    rw [← hspans]
    rfl
  · rw [hdeliver] at hspans hconcludes
    refine ⟨_, .done (.setAttributes sent.span (receiptFacts receipt)), ?_, hconcludes _ rfl⟩
    rw [← hspans]
    rfl

/-- What is known of an announcement that is over: what was said of it, when and how it was over,
what came of it, and what its span has recorded. -/
structure Tells (shop : Shop) (caller : Caller) (order : Order) (waiting : Shop)
    (ending : Nat × Option Interruption) (message : Message) (span last : Span)
    (outcome : Except BestEffortError Receipt) (final : Shop) : Prop where
  /-- While the announcement waits only the background works, if there is any. -/
  waits : shop.Passes 0 waiting
  idle : shop.tasks = [] → waiting.collaborators = shop.collaborators
  /-- It is over at the first of four instants, and the order in which they are listed settles
  ties. -/
  first : ComesFirst ending
    (caller.limits.instants shop.clock
        (shop.clock + shop.collaborators.broker.delay.getD 0) ++
      [(shop.clock + shop.settings.publishTimeout, some .deadlineExceeded)])
  clock_eq : waiting.clock = ending.1
  /-- The message is about the order, and its headers lead back to the span of the announcement. -/
  announces : message.Announces shop.settings.topic order
  carries : (extract message.headers).Carries span.context caller.context.baggage
  concludes : waiting.Concludes message ending.2 outcome final
  delivered_iff : outcome.isOk = true ↔ final.collaborators.broker.messages.total =
    waiting.collaborators.broker.messages.total + 1
  failed_iff : outcome.isOk = false ↔
    final.collaborators.broker.messages = waiting.collaborators.broker.messages
  /-- The span belongs to the caller, and is kept with what it has recorded. -/
  begins : span.Begins (shop.settings.topic ++ " publish") .producer caller.context.parent
  spans_eq : final.spans = waiting.spans ++ last.record?.toList
  isSome_record : last.record?.isSome = span.context.isSampled
  /-- The record is an error exactly if the message was not delivered. -/
  records : ∀ r ∈ last.record?, span.Records (shop.settings.topic ++ " publish") .producer
    caller.context.parent (!outcome.isOk) r

/-- An announcement is over at the first of four instants, and not before it begins. -/
theorem beginAnnouncement_first (shop : Shop) (hscripted : shop.collaborators.scripted = .none)
    (caller : Caller) (order : Order) :
    ComesFirst ((shop.beginAnnouncement caller order).1.1.time,
        (shop.beginAnnouncement caller order).1.1.interruption)
      (caller.limits.instants shop.clock
          (shop.clock + shop.collaborators.broker.delay.getD 0) ++
        [(shop.clock + shop.settings.publishTimeout, some .deadlineExceeded)]) ∧
    shop.clock ≤ (shop.beginAnnouncement caller order).1.1.time := by
  have hready : shop.clock ≤ shop.clock + shop.collaborators.broker.delay.getD 0 :=
    Nat.le_add_right _ _
  have hdelay : shop.collaborators.sendDelay = shop.collaborators.broker.delay.getD 0 := by
    unfold Collaborators.sendDelay Collaborators.scriptsSend
    rw [hscripted]
    rfl
  have hfirst := caller.limits.comesFirst_orTimeout (shop.clock + shop.settings.publishTimeout)
    hready
  rw [← hdelay] at hready hfirst ⊢
  refine ⟨hfirst, ?_⟩
  rcases List.mem_append.mp hfirst.mem with hmem | hmem
  · exact Limits.le_of_mem_instants hready _ hmem
  · rw [List.mem_singleton] at hmem
    exact (congrArg Prod.fst hmem).ge.trans' (Nat.le_add_right _ _)

/-- Whoever announces an order and waits is told what came of it. -/
theorem announce_tells (shop : Shop) (hscripted : shop.collaborators.scripted = .none)
    (caller : Caller) (order : Order) :
    ∃ waiting ending message span last outcome final,
      shop.announce caller none order = (some outcome, final) ∧
      shop.Tells caller order waiting ending message span last outcome final := by
  obtain ⟨hfirst, hlater⟩ := shop.beginAnnouncement_first hscripted caller order
  have hbegins : (shop.beginAnnouncement caller order).1.1.span.Begins
      (shop.settings.topic ++ " publish") .producer caller.context.parent :=
    (shop.tracer.start_begins _ _ _).of_grows (.setAttributes _ _)
  have hannounces : (shop.beginAnnouncement caller order).1.2.Announces shop.settings.topic order :=
    ⟨rfl, rfl, _, PlacedEvent.document_text ⟨order, .ofMillis shop.clock⟩⟩
  have hcarries : (extract (shop.beginAnnouncement caller order).1.2.headers).Carries
      (shop.beginAnnouncement caller order).1.1.span.context caller.context.baggage :=
    (Carrier.isFaithful_recordHeaders.arrives _).carries hbegins.isValid
  have hpasses : shop.Passes 0 (shop.beginAnnouncement caller order).2 :=
    .of_serves (shop.beginAnnouncement_serves caller order 0).1 rfl rfl (add_zero _).symm
  have hcollaborators : (shop.beginAnnouncement caller order).2.collaborators =
      shop.collaborators := rfl
  have htasks : (shop.beginAnnouncement caller order).2.tasks = shop.tasks := rfl
  have hclock : (shop.beginAnnouncement caller order).2.clock = shop.clock := rfl
  unfold announce
  generalize shop.beginAnnouncement caller order = begun at *
  obtain ⟨⟨sent, message⟩, begun⟩ := begun
  dsimp only at *
  rw [waitOrAbandon_none_eq]
  have hwaits := hpasses.trans (begun.waitUntil_passes sent.time)
  have hwaiting : (begun.waitUntil sent.time).collaborators.scripted = .none :=
    (congrArg Collaborators.scripted hwaits.stores_eq).trans hscripted
  obtain ⟨last, hends, hspans, hconcludes⟩ :=
    (begun.waitUntil sent.time).endAnnouncement_concludes hwaiting sent message
  obtain ⟨hrecorded, hrecords⟩ := hbegins.of_endsAs hends
  refine ⟨begun.waitUntil sent.time, (sent.time, sent.interruption), message, sent.span, last, _, _,
    rfl, ?_⟩
  exact {
    waits := hwaits
    idle := fun hnone ↦ by rw [waitUntil_of_idle (htasks.trans hnone), hcollaborators]
    first := hfirst
    clock_eq := clock_waitUntil (hclock.trans_le hlater)
    announces := hannounces
    carries := hcarries
    concludes := hconcludes
    delivered_iff := hconcludes.isOk_iff
    failed_iff := hconcludes.isOk_eq_false_iff
    begins := hbegins
    spans_eq := hspans
    isSome_record := hrecorded
    records := hrecords }

/-- An order of nothing. -/
def demoOrder : Order :=
  ⟨.ofNat 1, "TRACK-0001", Demo.shippingPrice,
    ⟨"1 Main Street", "Springfield", "", "US", "12345"⟩, [], Demo.shippingPrice⟩

/-- The demonstration shop announces that order, and tells so. -/
theorem demo_announce_tells :
    ∃ waiting ending message span last outcome final,
      (Demo.start .standard 0 0).announce .background none demoOrder = (some outcome, final) ∧
      outcome.isOk = true ∧
      (Demo.start .standard 0 0).Tells .background demoOrder waiting ending message span last
        outcome final := by
  have hscripted : (Demo.start .standard 0 0).collaborators.scripted = .none := rfl
  have hdelivered : ((Demo.start .standard 0 0).announce .background none demoOrder).1.any
      Except.isOk = true := rfl
  obtain ⟨waiting, ending, message, span, last, outcome, final, hannounce, htells⟩ :=
    announce_tells _ hscripted .background demoOrder
  rw [hannounce] at hdelivered
  exact ⟨waiting, ending, message, span, last, outcome, final, hannounce, hdelivered, htells⟩

/-- An entry under the empty key does not come back from the headers of a message. -/
theorem nameless_entry_is_lost :
    ∃ receipt message final,
      (Demo.start .standard 0 0).announce ⟨⟨none, .ofList [("", "x")]⟩, .none⟩ none demoOrder =
        (some (.ok receipt), final) ∧
      final.collaborators.broker.messages.entries = [message] ∧
      (extract message.headers).baggage ≠ .ofList [("", "x")] := by
  refine ⟨_, ((Demo.start .standard 0 0).beginAnnouncement _ demoOrder).1.2, _, rfl, rfl, ?_⟩
  intro hkept
  have harrived := (Carrier.isFaithful_recordHeaders.arrives _).baggage.symm.trans hkept
  exact absurd (congrArg Dict.size harrived) (by decide)

end Shop

end Storefront
