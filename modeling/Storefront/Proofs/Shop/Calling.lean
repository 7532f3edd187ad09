import Storefront.Proofs.Call.Fate
import Storefront.Proofs.Shop.Boundary
import Storefront.Proofs.Shop.Operations
import Storefront.Proofs.Shop.Outcome
import Storefront.Proofs.Shop.Rest

/-!
# What comes of a call

A call either brings the answer of its service, and then the service has acted on it, or it is
interrupted, and then nothing has happened but that the call was recorded, once at most. Three
instants decide which: the start of a call changes nothing but the records, `send_starts`; while it
waits only the background works; and what its service does it does at the end, `settle_replies`. The
main theorem is `call_tells`.
-/

namespace Storefront.Shop

variable {shop begun waiting final : Shop} {caller : Caller} {request : Request} {fate : Fate}
  {sent : Sent} {heard : Option CallRecord}

/-! ## The start -/

/-- What the start of a call fixes and what it changes. -/
structure Starts (shop : Shop) (caller : Caller) (request : Request) (heard : Option CallRecord)
    (fate : Fate) (sent : Sent) (begun : Shop) : Prop where
  /-- Its fate is decided by the limits of the caller and by how long the service waits. -/
  decides : caller.limits.Decides shop.clock
    (some (shop.clock + shop.collaborators.serviceDelay request)) fate
  ending : (sent.time, sent.interruption) =
    fate.ending shop.clock (shop.clock + shop.collaborators.serviceDelay request)
  /-- The service hears of the call once or never, and never if the call is not started. -/
  isSome_heard : heard.isSome = (fate.isStarted && shop.collaborators.hears request)
  names : ∀ record ∈ heard, record.service = request.service ∧ record.method = request.method
  /-- Only what is recorded changes. -/
  begins : ∃ tracer log, begun = { shop with
    tracer := tracer
    log := log
    calls := heard.toList.foldl CallLog.entered shop.calls }

/-- A service that answers for itself takes its own time. -/
theorem delay_eq_serviceDelay {c : Collaborators} (h : c.scripted = .none) (request : Request) :
    c.delay request = c.serviceDelay request := by
  unfold Collaborators.delay Collaborators.scripts
  rw [h, Collaborators.answer?_none]
  rfl

/-- A call is sent at its start. -/
theorem send_starts (hscripted : shop.collaborators.scripted = .none) (caller : Caller)
    (request : Request) : ∃ heard fate,
      shop.Starts caller request heard fate (shop.send caller request).1
        (shop.send caller request).2 := by
  have hdelay := delay_eq_serviceDelay hscripted request
  have hdecides := caller.limits.decides_fate shop.clock
    (some (shop.clock + shop.collaborators.delay request))
  unfold send startSpan warnOf
  dsimp only
  generalize caller.limits.fate _ _ = fate at hdecides ⊢
  rw [hdelay] at hdecides ⊢
  cases hstarted : fate.isStarted with
  | false =>
      refine ⟨none, fate, hdecides, rfl, ?_, nofun, _, _, rfl⟩
      rw [hstarted]
      rfl
  | true =>
      rw [if_pos rfl]
      obtain ⟨heard, hheard, hisSome, hsound⟩ := exists_hear_eq _ request _
      refine ⟨heard, fate, hdecides, rfl, ?_, fun record hrecord ↦ ?_, _, _, hheard⟩
      · rw [hstarted]
        exact hisSome
      · obtain ⟨hservice, hmethod, -⟩ := hsound record hrecord
        exact ⟨hservice, hmethod⟩

namespace Starts

/-- A service answers at some time, so a call comes to an end. -/
theorem ne_never (h : shop.Starts caller request heard fate sent begun) : fate ≠ .never := by
  rintro rfl
  cases h.decides with
  | never _ _ hnone => cases hnone

/-- A call is not over before it starts. -/
theorem clock_le (h : shop.Starts caller request heard fate sent begun) :
    shop.clock ≤ sent.time := by
  have hready : shop.clock ≤ shop.clock + shop.collaborators.serviceDelay request :=
    Nat.le_add_right _ _
  have hfirst := caller.limits.comesFirst_ending hready
  rw [h.decides.fate_eq, ← h.ending] at hfirst
  exact Limits.le_of_mem_instants hready _ hfirst.mem

/-- The wait for a call lasts until it is over. -/
theorem clock_waiting (h : shop.Starts caller request heard fate sent begun) :
    (begun.waitUntil sent.time).clock = sent.time := by
  obtain ⟨tracer, log, rfl⟩ := h.begins
  exact clock_waitUntil h.clock_le

/-- A shop without tasks changes no further while it waits. -/
theorem waiting_of_idle (h : shop.Starts caller request heard fate sent begun)
    (hidle : shop.tasks = []) : begun.waitUntil sent.time = { begun with clock := sent.time } := by
  have hbegun : begun.tasks = [] ∧ begun.clock = shop.clock := by
    obtain ⟨tracer, log, rfl⟩ := h.begins
    exact ⟨hidle, rfl⟩
  rw [waitUntil_of_idle hbegun.1, hbegun.2, Nat.max_eq_right h.clock_le]

/-- No script is set while a call waits. -/
theorem scripted_waiting (h : shop.Starts caller request heard fate sent begun)
    (hscripted : shop.collaborators.scripted = .none) :
    (begun.waitUntil sent.time).collaborators.scripted = .none := by
  refine (congrArg Collaborators.scripted (begun.waitUntil_passes sent.time).stores_eq).trans ?_
  obtain ⟨tracer, log, rfl⟩ := h.begins
  exact hscripted

end Starts

/-! ## The end -/

/-- `waiting.Replies request fate answer collaborators` says what comes of a request in a shop that
has waited for it: if its fate is to be interrupted, that is the answer and the collaborators stay
as they are; otherwise the answer is that of the service, and so are the collaborators. -/
inductive Replies (waiting : Shop) (request : Request) :
    Fate → Except CallFailure request.Accepted → Collaborators → Prop where
  | refused {reason} : Replies waiting request (.refused reason) (.error (.interrupted reason))
      waiting.collaborators
  | interrupted {time reason} : Replies waiting request (.ends time (some reason))
      (.error (.interrupted reason)) waiting.collaborators
  | answered {time} : Replies waiting request (.ends time none)
      ((request.accept (waiting.collaborators.serviceAnswer request).1).mapError .transport)
      (waiting.collaborators.serviceAnswer request).2

/-- What comes of a request that is interrupted changes nothing. -/
theorem Replies.eq_of_interrupted {answer : Except CallFailure request.Accepted}
    {collaborators : Collaborators} (h : waiting.Replies request fate answer collaborators)
    {reason : Interruption} (hanswer : answer = .error (.interrupted reason)) :
    collaborators = waiting.collaborators := by
  cases h with
  | refused | interrupted => rfl
  | answered =>
      -- What a service answers is never an interruption.
      cases hreply : request.accept (waiting.collaborators.serviceAnswer request).1 <;>
        rw [hreply] at hanswer <;> cases hanswer

/-- At the end of a call comes of its request what its fate says. -/
theorem settle_replies (hscripted : waiting.collaborators.scripted = .none) (request : Request)
    {now ready : Nat} (hends : fate ≠ .never)
    (hsent : (sent.time, sent.interruption) = fate.ending now ready) :
    waiting.Replies request fate (waiting.settle request sent).1
      (waiting.settle request sent).2.collaborators := by
  have hinterruption : sent.interruption = (fate.ending now ready).2 := congrArg Prod.snd hsent
  obtain ⟨span, hsettle⟩ := waiting.exists_settle_eq request sent
  rw [hsettle, answerUnless, hinterruption]
  cases fate with
  | never => exact absurd rfl hends
  | refused reason => exact .refused
  | ends time interruption =>
      cases interruption with
      | some reason => exact .interrupted
      | none =>
          dsimp only [Fate.ending]
          unfold answer
          rw [Collaborators.answer_eq_serviceAnswer _ hscripted]
          exact .answered

/-- The end of a call sends what its answer says, and changes nothing but the collaborators. -/
theorem settle_sends (hscripted : waiting.collaborators.scripted = .none) (request : Request)
    (sent : Sent) :
    (∃ spans, (waiting.settle request sent).2 = { waiting with
      collaborators := (waiting.settle request sent).2.collaborators
      spans := spans }) ∧
    (waiting.settle request sent).2.collaborators.mail.sent =
      (Call.confirmed? ⟨request, (waiting.settle request sent).1⟩).toList.foldl RetainedLog.push
        waiting.collaborators.mail.sent ∧
    (waiting.settle request sent).2.collaborators.broker = waiting.collaborators.broker := by
  obtain ⟨span, hsettle⟩ := waiting.exists_settle_eq request sent
  rw [hsettle, answerUnless]
  cases sent.interruption with
  | some reason => exact ⟨⟨_, rfl⟩, by cases request <;> rfl, rfl⟩
  | none =>
      obtain ⟨-, hbroker, hmail⟩ := waiting.collaborators.sent_answer hscripted request
        sent.isScripted
      exact ⟨⟨_, rfl⟩, hmail, hbroker⟩

/-! ## From start to end -/

/-- What is known of a call that is over: which instant decided on it, what its start and its end
have changed, and what has come of it. -/
structure CallTells (shop : Shop) (caller : Caller) (request : Request) (heard : Option CallRecord)
    (fate : Fate) (sent : Sent) (begun waiting : Shop)
    (answer : Except CallFailure request.Accepted) (final : Shop) : Prop where
  starts : shop.Starts caller request heard fate sent begun
  /-- While the call waits only the background works, if there is any. -/
  waits : waiting = begun.waitUntil sent.time
  idle : shop.tasks = [] → waiting = { begun with clock := sent.time }
  clock_eq : waiting.clock = sent.time
  replies : waiting.Replies request fate answer final.collaborators
  /-- The end of a call changes only the collaborators, and keeps its span. -/
  ends : ∃ spans, final = { waiting with collaborators := final.collaborators, spans := spans }
  /-- An interrupted call has no effect on the collaborators. -/
  unaffected : ∀ reason, answer = .error (.interrupted reason) →
    final.collaborators = waiting.collaborators
  /-- The effect of a call on the stores and on what is sent is what its answer says. -/
  stores_eq : final.collaborators.stores = shop.collaborators.stores.after ⟨request, answer⟩
  sent_eq : final.collaborators.mail.sent = (Call.confirmed? ⟨request, answer⟩).toList.foldl
    RetainedLog.push waiting.collaborators.mail.sent
  broker_eq : final.collaborators.broker = waiting.collaborators.broker

/-- Of a call that is not abandoned it is known what has come. -/
theorem exists_callTells (hscripted : shop.collaborators.scripted = .none)
    {abandonAt : Option Nat} {answer : Except CallFailure request.Accepted}
    (h : shop.call caller abandonAt request = (some answer, final)) :
    ∃ heard fate sent begun waiting,
      shop.CallTells caller request heard fate sent begun waiting answer final := by
  obtain ⟨heard, fate, hstarts⟩ := send_starts hscripted caller request
  have hwaiting := hstarts.scripted_waiting hscripted
  have hreplies := settle_replies hwaiting request hstarts.ne_never hstarts.ending
  obtain ⟨hends, hsent, hbroker⟩ := settle_sends hwaiting request (shop.send caller request).1
  rw [settle_of_call h] at hreplies hends hsent hbroker
  refine ⟨heard, fate, (shop.send caller request).1, (shop.send caller request).2,
    (shop.send caller request).2.waitUntil (shop.send caller request).1.time, ?_⟩
  exact {
    starts := hstarts
    waits := rfl
    idle := hstarts.waiting_of_idle
    clock_eq := hstarts.clock_waiting
    replies := hreplies
    ends := hends
    unaffected := fun _ ↦ hreplies.eq_of_interrupted
    stores_eq := stores_call hscripted h
    sent_eq := hsent
    broker_eq := hbroker }

/-- What becomes of work is decided by the first of three instants, which is found by looking at
every moment for the cancellation, the deadline, and the work, in this order. So a call to a service
that answers for itself comes to an end, unless it is abandoned, and either it is answered and has
its effect or it is interrupted and has none. -/
theorem call_tells :
    (∀ (limits : Limits) (now : Nat) (ready : Option Nat),
      (∀ fate, limits.Decides now ready fate ↔ limits.fate now ready = fate) ∧
        limits.Watches now ready (limits.fate now ready)) ∧
    ∀ shop : Shop, shop.collaborators.scripted = .none → ∀ (caller : Caller) (request : Request),
      (∃ answer final, shop.call caller none request = (some answer, final)) ∧
      ∀ abandonAt answer final, shop.call caller abandonAt request = (some answer, final) →
        ∃ heard fate sent begun waiting,
          shop.CallTells caller request heard fate sent begun waiting answer final := by
  refine ⟨fun limits now ready ↦ ⟨fun _ ↦ Limits.decides_iff, limits.watches_fate now ready⟩, ?_⟩
  intro shop hscripted caller request
  exact ⟨shop.exists_call caller request, fun _ _ _ h ↦ exists_callTells hscripted h⟩

/-- The demonstration shop with payments that take their time, where calls are recorded. -/
def slowPaymentsShop : Shop :=
  let shop := Demo.start .standard 0 0
  { shop with
    calls := .unbounded
    collaborators := { shop.collaborators with
      payments := { shop.collaborators.payments with delay := some 10 } } }

/-- A charge of the price of shipping. -/
def demoCharge : Request :=
  .charge Demo.shippingPrice ⟨"4111", 123, 2030, 1⟩ false

/-- A deadline that comes at the moment at which a charge would be taken prevents it, and all that
is left of the call is its record. -/
theorem deadline_prevents_charge :
    ∃ final heard fate sent begun waiting,
      slowPaymentsShop.call ⟨.empty, ⟨some 10, none⟩⟩ none demoCharge =
        (some (.error (.interrupted .deadlineExceeded)), final) ∧
      slowPaymentsShop.CallTells ⟨.empty, ⟨some 10, none⟩⟩ demoCharge heard fate sent begun waiting
        (.error (.interrupted .deadlineExceeded)) final ∧
      final.calls.methods = ["Charge"] ∧ final.collaborators = slowPaymentsShop.collaborators := by
  have hinterrupted : (slowPaymentsShop.call ⟨.empty, ⟨some 10, none⟩⟩ none demoCharge).1 =
      some (.error (.interrupted .deadlineExceeded)) := rfl
  have hrecorded : (slowPaymentsShop.call ⟨.empty, ⟨some 10, none⟩⟩ none
      demoCharge).2.calls.methods = ["Charge"] := rfl
  have hsame : (slowPaymentsShop.call ⟨.empty, ⟨some 10, none⟩⟩ none demoCharge).2.collaborators =
      slowPaymentsShop.collaborators := rfl
  obtain ⟨-, hcalls⟩ := call_tells
  obtain ⟨⟨answer, final, hcall⟩, htells⟩ := hcalls slowPaymentsShop rfl
    ⟨.empty, ⟨some 10, none⟩⟩ demoCharge
  obtain ⟨heard, fate, sent, begun, waiting, htold⟩ := htells none answer final hcall
  rw [hcall] at hinterrupted hrecorded hsame
  cases hinterrupted
  exact ⟨final, heard, fate, sent, begun, waiting, hcall, htold, hrecorded, hsame⟩

end Storefront.Shop
