import Storefront.Proofs.Checkout.Diversion
import Storefront.Proofs.Shop.Operations
import Storefront.Proofs.Shop.Outcome
import Storefront.Proofs.Shop.Pauses

/-!
# Diverted orders in a shop

While charges are diverted every order fails at the charge or before it, and to the shop it is no
more than a pause: `Pauses` says that between two moments a shop has done only what it would have
done while it waits, and `Records` that nothing but harmless calls was recorded. Each step of a
conversation in which only harmless things happen keeps to both. What comes of the order, abandoned
or not, is `ComesToNothing`, and `place_comesToNothing` says that it does.
-/

namespace Storefront

/-- The methods by which harmless requests are heard, and the one by which the background is. -/
def harmlessMethods : List String :=
  ["GetCart", "GetProduct", "GetQuote", "Convert", "SendOrderConfirmation"]

/-- A harmless request is heard by one of these methods or not at all. -/
theorem Request.method_of_isHarmless {request : Request} (h : request.isHarmless = true)
    (c : Collaborators) (hhears : c.hears request = true) : request.method ∈ harmlessMethods := by
  cases request with
  | getCart | getProduct | getQuote | convert => simp [method, harmlessMethods]
  | charge amount card diverted =>
      cases h
      cases hhears
  | shipOrder | emptyCart | confirm => cases h

/-- What is asked is harmless, and no order is complete. -/
def Event.IsHarmless : Event → Prop
  | .asked call => call.request.isHarmless = true
  | .consulted _ => True
  | .noted n => ∀ order email, n ≠ .completed order email

/-- Plain events are harmless if what is asked in them is. -/
theorem Event.isHarmless_of_isPlain {events : List Event} (hplain : ∀ event ∈ events, event.IsPlain)
    (hcalls : ∀ call ∈ callsOf events, call.request.isHarmless = true) :
    ∀ event ∈ events, event.IsHarmless := by
  intro event hevent
  have hquiet := Checkout.isQuiet_of_isPlain (hplain event hevent)
  match event with
  | .asked call => exact hcalls call (List.mem_filterMap.mpr ⟨_, hevent, rfl⟩)
  | .consulted _ => trivial
  | .noted n => exact hquiet

namespace Collaborators

/-- Nothing changes by a harmless request. -/
theorem answer_of_isHarmless (c : Collaborators) {request : Request}
    (h : request.isHarmless = true) (isScripted : Bool) : (c.answer request isScripted).2 = c := by
  unfold answer
  split
  · rfl
  · cases request with
    | getCart | getProduct | getQuote | convert => rfl
    | charge amount card diverted =>
        cases h
        rfl
    | shipOrder | emptyCart | confirm => cases h

/-- No request changes the address to which charges are diverted. -/
theorem divertedTo_answer (c : Collaborators) (request : Request) (isScripted : Bool) :
    (c.answer request isScripted).2.divertedTo = c.divertedTo := by
  unfold answer
  split
  · rfl
  · exact (congrArg Collaborators.divertedTo (c.stores_serviceAnswer request)).trans
      (by unfold after; split <;> rfl)

/-- Why a diverted charge fails: nobody answers at the address. -/
def unreached (c : Collaborators) : TransportError :=
  .unavailable ("connection refused: " ++ c.divertedTo)

/-- A diverted charge is answered by nobody, whatever script is set. -/
theorem accept_answer_diverted (c : Collaborators) (amount : Money) (card : Card)
    (isScripted : Bool) :
    (Request.charge amount card true).accept
      (c.answer (.charge amount card true) isScripted).1 = .error c.unreached := by
  cases isScripted <;> rfl

end Collaborators

namespace Shop

variable {shop next last final : Shop} {caller : Caller} {abandonAt : Option Nat} {span : Span}
  {request : Request}

/-! ## Pauses -/

/-- `shop.Pauses next` says that between two moments a shop has done only what it would have done
while it waits, and nothing at all if it had no task. -/
structure Pauses (shop next : Shop) : Prop where
  clock_le : shop.clock ≤ next.clock
  alike : next.Alike (shop.waitUntil next.clock)
  idle : shop.tasks = [] → next.tasks = [] ∧ next.collaborators = shop.collaborators

/-- Alike shops are live together. -/
theorem Alike.isLive (h : shop.Alike next) (hlive : next.IsLive) : shop.IsLive := by
  have hbare : ∀ shop : Shop, shop.bare.IsLive ↔ shop.IsLive := fun shop ↦ by
    unfold IsLive Task.IsLive
    show (∀ task ∈ shop.tasks.map Task.bare, _) ↔ _
    simp only [List.forall_mem_map, Task.due?_bare, Task.size_bare]
  exact (hbare shop).mp (h ▸ (hbare next).mpr hlive)

namespace Pauses

/-- What is only recorded is a pause of no time. -/
theorem of_alike (hclock : next.clock = shop.clock) (halike : next.Alike shop)
    (htasks : next.tasks = shop.tasks) (hcollaborators : next.collaborators = shop.collaborators) :
    shop.Pauses next := by
  refine ⟨Nat.le_of_eq hclock.symm, ?_, fun hidle ↦ ⟨htasks.trans hidle, hcollaborators⟩⟩
  rwa [waitUntil_of_le (Nat.le_of_eq hclock)]

/-- All tasks stay live in a pause. -/
theorem isLive (h : shop.Pauses next) (hlive : shop.IsLive) : next.IsLive :=
  h.alike.isLive (waitUntil_isLive hlive _)

/-- Two pauses make up one. -/
theorem trans (hlive : shop.IsLive) (hfirst : shop.Pauses next) (hsecond : next.Pauses last) :
    shop.Pauses last where
  clock_le := Nat.le_trans hfirst.clock_le hsecond.clock_le
  alike := by
    have hwaited := hfirst.alike.waitUntil last.clock
    rw [waitUntil_waitUntil hlive hsecond.clock_le] at hwaited
    exact hsecond.alike.trans hwaited
  idle hidle := by
    obtain ⟨htasks, hcollaborators⟩ := hfirst.idle hidle
    obtain ⟨htasks', hcollaborators'⟩ := hsecond.idle htasks
    exact ⟨htasks', hcollaborators'.trans hcollaborators⟩

/-- The stores stay as they are in a pause. -/
theorem stores_eq (h : shop.Pauses next) :
    next.collaborators.stores = shop.collaborators.stores :=
  (congrArg (fun b : Shop ↦ b.collaborators.stores) h.alike :).trans
    (shop.waitUntil_passes next.clock).stores_eq

end Pauses

/-- A wait is a pause. -/
theorem waitUntil_pauses (shop : Shop) {moment : Nat} (h : shop.clock ≤ moment) :
    shop.Pauses (shop.waitUntil moment) := by
  have hclock := clock_waitUntil h
  refine ⟨?_, ?_, fun hidle ↦ ?_⟩
  · rwa [hclock]
  · rw [hclock]
  · rw [waitUntil_of_idle hidle]
    exact ⟨hidle, rfl⟩

/-- A wait that may be abandoned is a pause. -/
theorem waitOrAbandon_pauses (shop : Shop) (abandonAt : Option Nat) (moment : Nat) :
    shop.Pauses (shop.waitOrAbandon abandonAt moment).2 := by
  have hwait : ∀ moment, shop.Pauses (shop.waitUntil moment) := by
    intro moment
    rcases Nat.le_total moment shop.clock with hle | hle
    · rw [waitUntil_of_le hle]
      exact .of_alike rfl rfl rfl rfl
    · exact shop.waitUntil_pauses hle
  unfold waitOrAbandon
  split
  · exact .of_alike rfl rfl rfl rfl
  · cases abandonAt with
    | none => exact hwait moment
    | some early =>
        dsimp only
        split <;> exact hwait _

/-- The start of a call is a pause. -/
theorem send_pauses (shop : Shop) (caller : Caller) (request : Request) :
    shop.Pauses (shop.send caller request).2 := by
  have hkeeps : (shop.send caller request).2.tasks = shop.tasks ∧
      (shop.send caller request).2.collaborators = shop.collaborators := by
    unfold send hear
    dsimp only
    split
    · split <;> exact ⟨rfl, rfl⟩
    · exact ⟨rfl, rfl⟩
  exact .of_alike (shop.clock_send caller request) (shop.bare_send caller request).1 hkeeps.1
    hkeeps.2

/-- The end of a harmless call is a pause. -/
theorem settle_pauses (shop : Shop) (h : request.isHarmless = true) (sent : Sent) :
    shop.Pauses (shop.settle request sent).2 := by
  have hanswer : (shop.answerUnless request sent).2 = shop := by
    unfold answerUnless
    cases sent.interruption with
    | some reason => rfl
    | none =>
        show { shop with collaborators := (shop.collaborators.answer request _).2 } = shop
        rw [Collaborators.answer_of_isHarmless _ h]
  obtain ⟨span, hsettle⟩ := shop.exists_settle_eq request sent
  rw [hsettle, hanswer]
  exact .of_alike rfl rfl rfl rfl

/-- A harmless call is a pause, and so is any call that is abandoned. -/
theorem call_pauses (hlive : shop.IsLive) (caller : Caller) (abandonAt : Option Nat)
    (request : Request) (h : (shop.call caller abandonAt request).1.isSome = true →
      request.isHarmless = true) :
    shop.Pauses (shop.call caller abandonAt request).2 := by
  have hwait : shop.Pauses ((shop.send caller request).2.waitOrAbandon abandonAt
      (shop.send caller request).1.time).2 :=
    (shop.send_pauses caller request).trans hlive (waitOrAbandon_pauses _ _ _)
  unfold call at h ⊢
  dsimp only at h ⊢
  split
  · rename_i hgoesOn
    rw [if_pos hgoesOn] at h
    exact hwait.trans hlive (settle_pauses _ (h rfl) _)
  · exact hwait.trans hlive (.of_alike rfl rfl rfl rfl)

/-- A harmless conversation is a pause. -/
theorem Hosts.pauses {last : Span} {events : List Event}
    (hharmless : ∀ event ∈ events, event.IsHarmless) (hlive : shop.IsLive)
    (h : Hosts caller abandonAt span shop events last final) : shop.Pauses final := by
  induction h with
  | done => exact .of_alike rfl rfl rfl rfl
  | @asked span shop request answer next _ _ _ hcall _ ih =>
      obtain ⟨hasked, hrest⟩ := List.forall_mem_cons.mp hharmless
      have hfirst := call_pauses hlive caller abandonAt request fun _ ↦ hasked
      rw [hcall] at hfirst
      exact hfirst.trans hlive (ih hrest (hfirst.isLive hlive))
  | consulted _ ih => exact ih (List.forall_mem_cons.mp hharmless).2 hlive
  | @noted span shop n _ _ _ _ ih =>
      obtain ⟨hnoted, hrest⟩ := List.forall_mem_cons.mp hharmless
      have hnote : shop.Pauses (shop.note caller span n).2 := by
        cases n with
        | completed order email => exact absurd rfl (hnoted order email)
        | _ => exact .of_alike rfl rfl rfl rfl
      exact hnote.trans hlive (ih hrest (hnote.isLive hlive))

/-! ## What is heard -/

/-- `shop.Records next` says that between two moments only harmless calls were recorded. -/
def Records (shop next : Shop) : Prop :=
  ∃ heard : List CallRecord, next.calls = heard.foldl CallLog.entered shop.calls ∧
    ∀ record ∈ heard, record.method ∈ harmlessMethods

namespace Records

/-- Where the record of calls stays as it is nothing was recorded. -/
theorem of_eq (h : next.calls = shop.calls) : shop.Records next :=
  ⟨[], h, nofun⟩

/-- What is recorded in two stretches is recorded in one. -/
theorem trans (hfirst : shop.Records next) (hsecond : next.Records last) : shop.Records last := by
  obtain ⟨heard, hcalls, hmethods⟩ := hfirst
  obtain ⟨more, hcalls', hmethods'⟩ := hsecond
  refine ⟨heard ++ more, ?_, List.forall_mem_append.mpr ⟨hmethods, hmethods'⟩⟩
  rw [List.foldl_append, ← hcalls, hcalls']

end Records

/-- The start of a harmless call records at most the call. -/
theorem send_records (shop : Shop) (caller : Caller) (h : request.isHarmless = true) :
    shop.Records (shop.send caller request).2 := by
  unfold send
  dsimp only
  split
  · obtain ⟨heard, hcalls, hhears, hsound⟩ := exists_hear_eq _ request _
    rw [hcalls]
    refine ⟨heard.toList, rfl, fun record hrecord ↦ ?_⟩
    have hrecord := Option.mem_toList.mp hrecord
    rw [(hsound record hrecord).2.1]
    refine request.method_of_isHarmless h _ (hhears.symm.trans ?_)
    rw [hrecord]
    rfl
  · exact .of_eq rfl

/-- What is owed in the background are confirmations and announcements. -/
theorem mem_loadOf {tasks : List Task} {duty : Duty} (h : duty ∈ (loadOf tasks).1) :
    (∃ origin confirmation, duty = .ask origin (.confirm confirmation)) ∨
      ∃ origin order, duty = .announce origin order := by
  induction tasks with
  | nil => exact absurd h (Multiset.notMem_zero duty)
  | cons task rest ih =>
      rw [loadOf_cons, Prod.fst_add, Multiset.mem_add] at h
      rcases h with h | h
      · match task with
        | .confirmation caller confirmation none =>
            exact .inl ⟨_, confirmation, Multiset.mem_singleton.mp h⟩
        | .confirmation _ _ (some _) => exact absurd h (Multiset.notMem_zero duty)
        | .announcement _ order _ none => exact .inr ⟨_, order, Multiset.eq_of_mem_replicate h⟩
        | .announcement _ order _ (some _) => exact .inr ⟨_, order, Multiset.eq_of_mem_replicate h⟩
      · exact ih h

/-- Of the background only confirmations are recorded as calls. -/
theorem waitUntil_records (shop : Shop) (moment : Nat) :
    shop.Records (shop.waitUntil moment) := by
  obtain ⟨started, finished, hperforms, ⟨howed, -⟩, -⟩ := shop.waitUntil_goes True moment
  refine ⟨_, hperforms.calls_eq, fun record hrecord ↦ ?_⟩
  obtain ⟨s, hs, hheard⟩ := List.mem_filterMap.mp hrecord
  obtain ⟨request, hmatter, -, hmethod, -⟩ := (hperforms.started_sound s hs).heard record hheard
  have hduty : s.operation.duty ∈ (loadOf shop.tasks).1 := by
    rw [howed, Multiset.mem_add]
    exact .inl (Multiset.mem_coe.mpr (List.mem_map_of_mem hs))
  have hasks : s.operation.duty = .ask s.operation.origin request := by
    unfold Operation.duty
    rw [hmatter]
  rw [hasks] at hduty
  rcases mem_loadOf hduty with ⟨_, confirmation, hconfirm⟩ | ⟨_, _, hannounce⟩
  · cases hconfirm
    rw [hmethod]
    simp [Request.method, harmlessMethods]
  · cases hannounce

/-- A harmless call records at most itself and confirmations, whether it is abandoned or not. -/
theorem call_records (shop : Shop) (caller : Caller) (abandonAt : Option Nat)
    (h : request.isHarmless = true) :
    shop.Records (shop.call caller abandonAt request).2 := by
  have hwait : ∀ shop : Shop, ∀ moment,
      shop.Records (shop.waitOrAbandon abandonAt moment).2 := by
    intro shop moment
    unfold waitOrAbandon
    split
    · exact .of_eq rfl
    · split
      · split <;> exact shop.waitUntil_records _
      · exact shop.waitUntil_records moment
  have hwaited := (shop.send_records caller h).trans
    (hwait _ (shop.send caller request).1.time)
  have hsettle : ∀ shop : Shop, ∀ sent, shop.Records (shop.settle request sent).2 := by
    intro shop sent
    obtain ⟨span, hsettle⟩ := shop.exists_settle_eq request sent
    rw [hsettle]
    unfold answerUnless
    cases sent.interruption <;> exact .of_eq rfl
  unfold call
  dsimp only
  split
  · exact hwaited.trans (hsettle _ _)
  · exact hwaited.trans (.of_eq rfl)

/-- A harmless conversation records harmless calls only. -/
theorem Hosts.records {last : Span} {events : List Event}
    (hharmless : ∀ event ∈ events, event.IsHarmless)
    (h : Hosts caller abandonAt span shop events last final) : shop.Records final := by
  induction h with
  | done => exact .of_eq rfl
  | @asked span shop request answer next _ _ _ hcall _ ih =>
      obtain ⟨hasked, hrest⟩ := List.forall_mem_cons.mp hharmless
      have hfirst := shop.call_records caller abandonAt hasked
      rw [hcall] at hfirst
      exact hfirst.trans (ih hrest)
  | consulted _ ih => exact ih (List.forall_mem_cons.mp hharmless).2
  | @noted span shop n _ _ _ _ ih =>
      obtain ⟨hnoted, hrest⟩ := List.forall_mem_cons.mp hharmless
      have hnote : (shop.note caller span n).2.calls = shop.calls := by
        cases n with
        | completed order email => exact absurd rfl (hnoted order email)
        | _ => rfl
      exact (Records.of_eq hnote).trans (ih hrest)

/-! ## What comes of a diverted charge -/

/-- Who asks for a diverted charge is interrupted or finds nobody at the address. -/
theorem answer_of_diverted {amount : Money} {card : Card} {answer : Except CallFailure String}
    (h : shop.call caller abandonAt (.charge amount card true) = (some answer, next)) :
    (∃ reason, answer = .error (.interrupted reason)) ∨
      answer = .error (.transport shop.collaborators.unreached) := by
  obtain ⟨waiting, sent, hpasses, hsettle⟩ := exists_settle_of_call h
  have haddress : waiting.collaborators.divertedTo = shop.collaborators.divertedTo :=
    (congrArg Collaborators.divertedTo hpasses.stores_eq :)
  obtain ⟨last, heq⟩ := waiting.exists_settle_eq (.charge amount card true) sent
  rw [heq] at hsettle
  obtain ⟨rfl, -⟩ := Prod.mk.inj hsettle
  unfold answerUnless
  cases sent.interruption with
  | some reason => exact .inl ⟨reason, rfl⟩
  | none =>
      right
      show ((Request.charge amount card true).accept
        (waiting.collaborators.answer (.charge amount card true) sent.isScripted).1).mapError
          CallFailure.transport = _
      rw [Collaborators.accept_answer_diverted, Collaborators.unreached, haddress]
      rfl

/-- No call changes the address to which charges are diverted. -/
theorem divertedTo_of_call {answer : Except CallFailure request.Accepted}
    (h : shop.call caller abandonAt request = (some answer, next)) :
    next.collaborators.divertedTo = shop.collaborators.divertedTo := by
  obtain ⟨waiting, sent, hpasses, hsettle⟩ := exists_settle_of_call h
  have haddress : waiting.collaborators.divertedTo = shop.collaborators.divertedTo :=
    (congrArg Collaborators.divertedTo hpasses.stores_eq :)
  obtain ⟨last, heq⟩ := waiting.exists_settle_eq request sent
  rw [heq] at hsettle
  obtain ⟨-, rfl⟩ := Prod.mk.inj hsettle
  refine Eq.trans ?_ haddress
  show (waiting.answerUnless request sent).2.collaborators.divertedTo = _
  unfold answerUnless
  cases sent.interruption with
  | some reason => rfl
  | none => exact Collaborators.divertedTo_answer _ request sent.isScripted

/-- In a conversation every diverted charge is interrupted or finds nobody at the address. -/
theorem Hosts.diverted_answers {last : Span} {events : List Event}
    (h : Hosts caller abandonAt span shop events last final) {amount : Money} {card : Card}
    {answer : Except CallFailure String}
    (hcall : ⟨.charge amount card true, answer⟩ ∈ callsOf events) :
    (∃ reason, answer = .error (.interrupted reason)) ∨
      answer = .error (.transport shop.collaborators.unreached) := by
  induction h with
  | done => cases hcall
  | @asked span shop request reply next _ _ _ hnext _ ih =>
      rw [callsOf_asked] at hcall
      rcases List.mem_cons.mp hcall with heq | hlater
      · cases heq
        exact answer_of_diverted hnext
      · have hrest := ih hlater
        rwa [Collaborators.unreached, divertedTo_of_call hnext] at hrest
  | consulted _ ih => exact ih hcall
  | @noted span shop n _ _ _ _ ih =>
      have hrest := ih hcall
      rwa [(shop.note_keeps caller span n).2.1] at hrest

/-! ## What comes of the order -/

/-- A call that is not abandoned goes as it does for one who cannot abandon it. -/
theorem call_none_of_call {answer : Except CallFailure request.Accepted}
    (h : shop.call caller abandonAt request = (some answer, next)) :
    shop.call caller none request = (some answer, next) := by
  have hsettle := settle_of_call h
  unfold call
  dsimp only
  rw [waitOrAbandon_none_eq, if_pos rfl, hsettle]

/-- A conversation that is given up at a call could go on from there if it were not. -/
theorem Hosts.exists_beyond {α : Type} {d : Dialogue α} {last : Span} {events : List Event}
    {pending : Request} {waiting : Shop} (hhalts : d.Halts events pending)
    (h : Hosts caller abandonAt span shop events last waiting) :
    ∃ answer rest value last' final',
      d.Plays (events ++ .asked ⟨pending, answer⟩ :: rest) value ∧
      Hosts caller none span shop (events ++ .asked ⟨pending, answer⟩ :: rest) last' final' := by
  induction hhalts generalizing span shop with
  | @waiting request next =>
      cases h
      obtain ⟨answer, after, hcall⟩ := waiting.exists_call caller request
      obtain ⟨value, last', final', hconverse⟩ := exists_converse caller (next answer) last after
      obtain ⟨rest, hplays, hhosts⟩ := converse_eq_some_iff.mp hconverse
      exact ⟨answer, rest, value, last', final', .asked (call_answers hcall) hplays,
        .asked hcall hhosts⟩
  | asked hanswer _ ih =>
      cases h with
      | asked hcall hrest =>
          obtain ⟨answer, rest, value, last', final', hplays, hbeyond⟩ := ih hrest
          exact ⟨answer, rest, value, last', final', .asked hanswer hplays,
            .asked (call_none_of_call hcall) hbeyond⟩
  | consulted _ ih =>
      cases h with
      | consulted hrest =>
          obtain ⟨answer, rest, value, last', final', hplays, hbeyond⟩ := ih hrest
          exact ⟨answer, rest, value, last', final', .consulted hplays, .consulted hbeyond⟩
  | noted _ ih =>
      cases h with
      | noted hrest =>
          obtain ⟨answer, rest, value, last', final', hplays, hbeyond⟩ := ih hrest
          exact ⟨answer, rest, value, last', final', .noted hplays, .noted hbeyond⟩

/-- An order whose charge would be diverted fails at the charge or before it, and what happens on
the way is harmless. -/
theorem Hosts.failsDiverted {id : OrderId} {order : OrderRequest} {last : Span}
    {events : List Event} {result : Except PlacementError Order}
    (hdivert : shop.faults.divert = true)
    (hplays : (Checkout.placeOrder id order).Plays events result)
    (h : Hosts caller abandonAt span shop events last final) :
    ∃ error, result = .error error ∧
      FailsDiverted shop.collaborators.divertedTo order events error ∧
      ∀ event ∈ events, event.IsHarmless := by
  have hconforms := Checkout.conforms hplays
  have hdiverted : IsDiverted shop.collaborators.divertedTo events :=
    ⟨fun diverted hmem ↦ (h.faults_eq.2 diverted hmem).trans hdivert, fun _ _ _ hcall ↦
      h.diverted_answers hcall⟩
  obtain ⟨error, rfl, hfails⟩ := hconforms.failsDiverted hdiverted
  exact ⟨error, rfl, hfails, Event.isHarmless_of_isPlain hconforms.isPlain hfails.harmless⟩

/-- `shop.ComesToNothing caller abandonAt order result final` says that an order has this result,
if it was not abandoned, and leaves the shop as if it had only waited. -/
structure ComesToNothing (shop : Shop) (caller : Caller) (abandonAt : Option Nat)
    (order : OrderRequest) (result : Option (Except PlacementError Order)) (final : Shop) :
    Prop where
  /-- There is a result unless the order is abandoned. -/
  answered : result = none → abandonAt.isSome = true
  /-- The order fails at the charge or before it. -/
  fails : ∀ outcome, result = some outcome → ∃ error events, outcome = .error error ∧
    shop.Places caller abandonAt order events outcome final ∧
    FailsDiverted shop.collaborators.divertedTo order events error
  /-- Nothing is charged, shipped, or taken out of a cart, and no number of a payment or a shipment
  is used up. -/
  stores_eq : final.collaborators.stores = shop.collaborators.stores
  /-- No service is asked to do so. -/
  records : ∃ heard : List CallRecord, final.calls = heard.foldl CallLog.entered shop.calls ∧
    ∀ record ∈ heard, record.method ∉ ["Charge", "ShipOrder", "EmptyCart"]
  /-- Nothing is confirmed or announced that is not confirmed or announced in a shop that waits, and
  nothing at all if no task was left. -/
  pauses : { shop with orders := shop.orders + 1 }.Pauses final

/-- The start of an order is a pause, but for the count of orders. -/
theorem openOrder_pauses (shop : Shop) (caller : Caller) (order : OrderRequest) :
    { shop with orders := shop.orders + 1 }.Pauses (shop.openOrder caller order).2 :=
  .of_alike rfl rfl rfl rfl

variable {order : OrderRequest} {result : Except PlacementError Order} {events : List Event}

/-- An order that is no more than a pause leaves nothing behind. -/
theorem comesToNothing_of_pauses {result : Option (Except PlacementError Order)}
    (hlive : shop.IsLive) (hanswered : result = none → abandonAt.isSome = true)
    (hfails : ∀ outcome, result = some outcome → ∃ error events, outcome = .error error ∧
      shop.Places caller abandonAt order events outcome final ∧
      FailsDiverted shop.collaborators.divertedTo order events error)
    (hpauses : (shop.openOrder caller order).2.Pauses final)
    (hrecords : (shop.openOrder caller order).2.Records final) :
    shop.ComesToNothing caller abandonAt order result final := by
  have hcounted : { shop with orders := shop.orders + 1 }.IsLive := hlive
  have hall := (shop.openOrder_pauses caller order).trans hcounted hpauses
  obtain ⟨heard, hcalls, hmethods⟩ := hrecords
  refine ⟨hanswered, hfails, hall.stores_eq, ⟨heard, hcalls, fun record hrecord ↦ ?_⟩, hall⟩
  have hmethod := hmethods record hrecord
  revert hmethod
  generalize record.method = method
  revert method
  decide

/-- An order that is placed while charges are diverted comes to nothing. -/
theorem Places.comesToNothing (hlive : shop.IsLive) (hdivert : shop.faults.divert = true)
    (h : shop.Places caller abandonAt order events result final) :
    shop.ComesToNothing caller abandonAt order (some result) final := by
  have ⟨hplays, last, closing, hhosts, hclosing⟩ := h
  have hopened : (shop.openOrder caller order).2.IsLive := hlive
  have hdiverting : (shop.openOrder caller order).2.faults.divert = true := hdivert
  obtain ⟨error, rfl, hfails, hharmless⟩ := hhosts.failsDiverted hdiverting hplays
  refine comesToNothing_of_pauses hlive nofun ?_ ?_ ?_
  · rintro outcome ⟨⟩
    exact ⟨error, events, rfl, h, hfails⟩
  · have hclosed : closing.Pauses final := by
      rw [hclosing]
      exact .of_alike rfl rfl rfl rfl
    exact (hhosts.pauses hharmless hopened).trans hopened hclosed
  · refine (hhosts.records hharmless).trans (.of_eq ?_)
    rw [hclosing]
    rfl

/-- So does one that is abandoned. -/
theorem Abandons.comesToNothing {pending : Request} (hlive : shop.IsLive)
    (hdivert : shop.faults.divert = true) (habandoned : abandonAt.isSome = true)
    (h : shop.Abandons caller abandonAt order events pending final) :
    shop.ComesToNothing caller abandonAt order none final := by
  obtain ⟨hhalts, last, waiting, closing, hhosts, hcall, rfl⟩ := h
  have hopened : (shop.openOrder caller order).2.IsLive := hlive
  have hdiverting : (shop.openOrder caller order).2.faults.divert = true := hdivert
  -- Whatever would have happened next is harmless, and so is the call that was abandoned.
  obtain ⟨answer, rest, value, _, _, hplays, hbeyond⟩ := hhosts.exists_beyond hhalts
  obtain ⟨-, -, -, hharmless⟩ := hbeyond.failsDiverted hdiverting hplays
  obtain ⟨hevents, hlater⟩ := List.forall_mem_append.mp hharmless
  have hpending : pending.isHarmless = true := (List.forall_mem_cons.mp hlater).1
  have hpauses := hhosts.pauses hevents hopened
  have hlast := call_pauses (hpauses.isLive hopened)
    (caller.withParent (shop.openOrder caller order).1.context) abandonAt pending
    fun _ ↦ hpending
  have hrecords := waiting.call_records
    (caller.withParent (shop.openOrder caller order).1.context) abandonAt hpending
  rw [hcall] at hlast hrecords
  refine comesToNothing_of_pauses hlive (fun _ ↦ habandoned) nofun ?_ ?_
  · exact (hpauses.trans hopened hlast).trans hopened (.of_alike rfl rfl rfl rfl)
  · exact ((hhosts.records hevents).trans hrecords).trans (.of_eq rfl)

/-- An order whose charge would be diverted comes to nothing, whether it is abandoned or not. -/
theorem place_comesToNothing (hlive : shop.IsLive) (hdivert : shop.faults.divert = true)
    (caller : Caller) (abandonAt : Option Nat) (order : OrderRequest) :
    shop.ComesToNothing caller abandonAt order (shop.place caller abandonAt order).1
      (shop.place caller abandonAt order).2 := by
  rcases hplace : shop.place caller abandonAt order with ⟨_ | result, final⟩
  · obtain ⟨events, pending, habandons⟩ := exists_abandons hplace
    refine habandons.comesToNothing hlive hdivert ?_
    cases abandonAt with
    | some moment => rfl
    | none =>
        obtain ⟨result, last, hresult⟩ := shop.exists_place caller order
        cases hresult.symm.trans hplace
  · obtain ⟨events, hplaces⟩ := place_eq_some_iff.mp hplace
    exact hplaces.comesToNothing hlive hdivert

end Shop

end Storefront
