import Storefront.Proofs.Shop.Commitment
import Storefront.Proofs.Shop.Outcome

/-!
# Every order is followed up

`History shop returns last` says that a shop becomes `last` while orders are placed one after
another and others change the faults and how the services behave. Each order that was placed
accounts for one confirmation if it has an address, delivered or counted as a failure, and for as
many announcements as the faults demanded when it was complete; an order that failed accounts for
nothing. `History.accounts` says that when the background has come to rest everything that was sent
and every failure that was counted is on account of exactly one order.
-/

namespace Storefront

/-- The confirmation that is owed by a duty. -/
def Duty.confirms? : Duty → Option Confirmation
  | ask _ (.confirm confirmation) => some confirmation
  | _ => none

/-- The order whose announcement is owed by a duty. -/
def Duty.announces? : Duty → Option Order
  | announce _ order => some order
  | _ => none

namespace Finished

/-- A duty to confirm is fulfilled by a confirmation or ends in a failure that is counted. -/
theorem confirmed_spec (f : Finished) :
    f.confirmed?.toList.length + f.setback?.toList.count .sendConfirmation =
        f.operation.duty.confirms?.toList.length ∧
      ∀ c ∈ f.confirmed?, f.operation.duty.confirms? = some c := by
  obtain ⟨origin, span, outcome, last⟩ := f
  match outcome with
  | .placed .. => exact ⟨rfl, nofun⟩
  | .asked ⟨.confirm c, .ok _⟩ => exact ⟨rfl, fun _ h ↦ h⟩
  | .asked ⟨.confirm c, .error _⟩ => exact ⟨rfl, nofun⟩
  | .asked ⟨.getCart _, _⟩ | .asked ⟨.getProduct _, _⟩ | .asked ⟨.getQuote .., _⟩
  | .asked ⟨.convert .., _⟩ | .asked ⟨.charge .., _⟩ | .asked ⟨.shipOrder .., _⟩
  | .asked ⟨.emptyCart _, _⟩ => exact ⟨rfl, nofun⟩
  | .announced order message (.ok _) => exact ⟨rfl, nofun⟩
  | .announced order message (.error _) => exact ⟨rfl, nofun⟩

/-- A duty to announce is fulfilled by a message or ends in a failure that is counted. -/
theorem delivered_spec (f : Finished) :
    f.delivered?.toList.length + f.setback?.toList.count .publishEvent =
        f.operation.duty.announces?.toList.length ∧
      ∀ m ∈ f.delivered?, ∃ order, f.operation.duty.announces? = some order ∧
        f.operation.matter = .announce order m := by
  obtain ⟨origin, span, outcome, last⟩ := f
  match outcome with
  | .placed .. => exact ⟨rfl, nofun⟩
  | .asked ⟨.confirm c, .ok _⟩ => exact ⟨rfl, nofun⟩
  | .asked ⟨.confirm c, .error _⟩ => exact ⟨rfl, nofun⟩
  | .asked ⟨.getCart _, _⟩ | .asked ⟨.getProduct _, _⟩ | .asked ⟨.getQuote .., _⟩
  | .asked ⟨.convert .., _⟩ | .asked ⟨.charge .., _⟩ | .asked ⟨.shipOrder .., _⟩
  | .asked ⟨.emptyCart _, _⟩ => exact ⟨rfl, nofun⟩
  | .announced order message (.ok _) =>
      refine ⟨rfl, ?_⟩
      rintro _ ⟨⟩
      exact ⟨order, rfl, rfl⟩
  | .announced order message (.error _) => exact ⟨rfl, nofun⟩

/-- What is delivered and what fails are together what is owed. -/
theorem length_filterMap_add_count {α β : Type} {delivered : Finished → Option α}
    {owed : Finished → Option β} {step : Step}
    (h : ∀ f : Finished, (delivered f).toList.length + f.setback?.toList.count step =
      (owed f).toList.length) (fs : List Finished) :
    (fs.filterMap delivered).length + (fs.filterMap setback?).count step =
      (fs.filterMap owed).length := by
  induction fs with
  | nil => rfl
  | cons f rest ih =>
      rw [← List.singleton_append, List.filterMap_append, List.filterMap_append,
        List.filterMap_append, filterMap_singleton, filterMap_singleton, filterMap_singleton,
        List.length_append, List.length_append, List.count_append, ← h f, ← ih]
      omega

end Finished

/-- The confirmations owed for what follows an order. -/
theorem confirms_followUps (announces : Bool) (extra : Nat) (origin : Context) (order : Order)
    (email : String) :
    (followUps announces extra origin order email).filterMap Duty.confirms? =
      if email = "" then 0 else {⟨email, order⟩} := by
  have hannounce : ∀ n, (Multiset.replicate n (Duty.announce origin order)).filterMap
      Duty.confirms? = 0 := by
    intro n
    rw [← Multiset.coe_replicate, Multiset.filterMap_coe, List.filterMap_replicate]
    rfl
  unfold followUps
  rw [Multiset.filterMap_add]
  split <;> split <;> simp [hannounce] <;> rfl

/-- The announcements owed for what follows an order. -/
theorem announces_followUps (announces : Bool) (extra : Nat) (origin : Context) (order : Order)
    (email : String) :
    (followUps announces extra origin order email).filterMap Duty.announces? =
      if announces then .replicate (1 + extra) order else 0 := by
  have hannounce : ∀ n, (Multiset.replicate n (Duty.announce origin order)).filterMap
      Duty.announces? = .replicate n order := by
    intro n
    rw [← Multiset.coe_replicate, Multiset.filterMap_coe, List.filterMap_replicate]
    rfl
  unfold followUps
  rw [Multiset.filterMap_add]
  split <;> split <;> simp [hannounce] <;> rfl

/-- A placement that has come to its end: the request, how many times more than once the faults had
orders announced at that moment, and the result. -/
structure Return where
  request : OrderRequest
  extra : Nat
  result : Except PlacementError Order

/-- `r.Gives announces d` says that what is returned gave `d` to do: to place the order, to ask what
is needed for it, and what follows if it was placed. -/
def Return.Gives (announces : Bool) (r : Return) (d : Multiset Duty) : Prop :=
  ∃ origin server calls, (∀ call ∈ calls, call.request.step ≠ .sendConfirmation) ∧
    d = {.place origin r.request} + orderDuties announces r.extra server r.request calls r.result

namespace Return

/-- The confirmations and the announcements owed for a return are those that follow its order. -/
theorem Gives.owed {announces : Bool} {r : Return} {d : Multiset Duty} (h : r.Gives announces d) :
    (d.filterMap Duty.confirms? =
      match r.result with
      | .ok order =>
          if Text.trim r.request.email = "" then 0 else {⟨Text.trim r.request.email, order⟩}
      | .error _ => 0) ∧
    d.filterMap Duty.announces? =
      match r.result with
      | .ok order => if announces then .replicate (1 + r.extra) order else 0
      | .error _ => 0 := by
  obtain ⟨origin, server, calls, hcalls, rfl⟩ := h
  have hquiet : ∀ call ∈ calls, (Duty.ask server call.request).confirms? = none := by
    intro call hcall
    obtain ⟨request, answer⟩ := call
    cases request with
    | confirm => exact absurd rfl (hcalls _ hcall)
    | getCart | getProduct | getQuote | convert | charge | shipOrder | emptyCart => rfl
  have hconfirms : (calls.map fun call ↦ Duty.ask server call.request).filterMap
      Duty.confirms? = [] := by
    rw [List.filterMap_map]
    exact List.filterMap_eq_nil_iff.mpr hquiet
  have hannounces : (calls.map fun call ↦ Duty.ask server call.request).filterMap
      Duty.announces? = [] := by
    rw [List.filterMap_map]
    exact List.filterMap_eq_nil_iff.mpr fun _ _ ↦ rfl
  have hplace : ∀ {β : Type} {owed : Duty → Option β}, owed (.place origin r.request) = none →
      ({.place origin r.request} : Multiset Duty).filterMap owed = 0 := fun h ↦
    Multiset.filterMap_cons_none _ 0 h
  unfold orderDuties
  rw [Multiset.filterMap_add, Multiset.filterMap_add, Multiset.filterMap_add,
    Multiset.filterMap_add, Multiset.filterMap_coe, Multiset.filterMap_coe, hconfirms, hannounces,
    hplace rfl, hplace rfl, Multiset.coe_nil, Multiset.coe_nil, zero_add, zero_add, zero_add,
    zero_add]
  cases r.result with
  | ok order =>
      exact ⟨confirms_followUps announces r.extra server order _,
        announces_followUps announces r.extra server order _⟩
  | error error => exact ⟨Multiset.filterMap_zero _, Multiset.filterMap_zero _⟩

end Return

/-- What is sent and counted on account of an order. -/
@[ext]
structure Account where
  confirmations : List Confirmation
  unconfirmed : Nat
  messages : List Message
  unannounced : Nat

/-- The account is that of a return: of an order that was placed one confirmation if there is an
address, and the announcements that were demanded if orders are announced at all. -/
structure Account.Settles (topic : String) (announces : Bool) (r : Return) (a : Account) :
    Prop where
  /-- There is one confirmation of the order, or one failure, if there is an address. -/
  confirmed : ∀ order, r.result = .ok order → Text.trim r.request.email ≠ "" →
    a.confirmations.length + a.unconfirmed = 1 ∧
    ∀ c ∈ a.confirmations, c = ⟨Text.trim r.request.email, order⟩
  /-- There is none without an address. -/
  unaddressed : Text.trim r.request.email = "" → a.confirmations = [] ∧ a.unconfirmed = 0
  /-- Each announcement is a message about the order, or a failure. -/
  announced : ∀ order, r.result = .ok order → announces = true →
    a.messages.length + a.unannounced = 1 + r.extra ∧ ∀ m ∈ a.messages, m.Announces topic order
  /-- There are none if orders are not announced. -/
  unannounced : announces = false → a.messages = [] ∧ a.unannounced = 0
  /-- There is nothing on account of an order that was not placed. -/
  failed : ∀ error, r.result = .error error → a = ⟨[], 0, [], 0⟩

/-- The account of operations that are over. -/
def Account.of (fs : List Finished) : Account where
  confirmations := fs.filterMap Finished.confirmed?
  unconfirmed := (fs.filterMap Finished.setback?).count .sendConfirmation
  messages := fs.filterMap Finished.delivered?
  unannounced := (fs.filterMap Finished.setback?).count .publishEvent

/-- What is on account of operations that are over is what was owed for them. -/
theorem Account.of_spec {topic : String} {d : Multiset Duty} {fs : List Finished}
    (hduties : ↑(fs.map fun f ↦ f.operation.duty) = d)
    (hsound : ∀ f ∈ fs, ∀ order message, f.operation.matter = .announce order message →
      message.Announces topic order) :
    ((Account.of fs).confirmations.length + (Account.of fs).unconfirmed =
        (d.filterMap Duty.confirms?).card ∧
      ∀ c ∈ (Account.of fs).confirmations, c ∈ d.filterMap Duty.confirms?) ∧
    (Account.of fs).messages.length + (Account.of fs).unannounced =
        (d.filterMap Duty.announces?).card ∧
      ∀ m ∈ (Account.of fs).messages, ∃ order ∈ d.filterMap Duty.announces?,
        m.Announces topic order := by
  have hfilter : ∀ {β : Type} (owed : Duty → Option β),
      d.filterMap owed = ↑(fs.filterMap fun f ↦ owed f.operation.duty) := by
    intro β owed
    rw [← hduties, Multiset.filterMap_coe, List.filterMap_map]
    rfl
  rw [hfilter, hfilter]
  refine ⟨⟨?_, fun c hc ↦ ?_⟩, ?_, fun m hm ↦ ?_⟩
  · exact Finished.length_filterMap_add_count (fun f ↦ f.confirmed_spec.1) fs
  · obtain ⟨f, hf, hconfirmed⟩ := List.mem_filterMap.mp hc
    exact List.mem_filterMap.mpr ⟨f, hf, f.confirmed_spec.2 c hconfirmed⟩
  · exact Finished.length_filterMap_add_count (fun f ↦ f.delivered_spec.1) fs
  · obtain ⟨f, hf, hdelivered⟩ := List.mem_filterMap.mp hm
    obtain ⟨order, hduty, hmatter⟩ := f.delivered_spec.2 m hdelivered
    exact ⟨order, List.mem_filterMap.mpr ⟨f, hf, hduty⟩, hsound f hf order m hmatter⟩

/-- The account of the operations that a return gave to do settles it. -/
theorem Account.of_settles {topic : String} {announces : Bool} {r : Return} {d : Multiset Duty}
    {fs : List Finished} (hgives : r.Gives announces d)
    (hduties : ↑(fs.map fun f ↦ f.operation.duty) = d)
    (hsound : ∀ f ∈ fs, ∀ order message, f.operation.matter = .announce order message →
      message.Announces topic order) :
    (Account.of fs).Settles topic announces r := by
  obtain ⟨⟨hconfirm, hconfirmed⟩, hannounce, hannounced⟩ := Account.of_spec hduties hsound
  obtain ⟨howed, howed'⟩ := hgives.owed
  rw [howed] at hconfirm hconfirmed
  rw [howed'] at hannounce hannounced
  -- Where nothing is owed, nothing was sent and nothing has failed.
  have hnone : ∀ {α : Type} {sent : List α} {failures : Nat},
      sent.length + failures = 0 → sent = [] ∧ failures = 0 := by
    intro α sent failures h
    exact ⟨List.eq_nil_of_length_eq_zero (by omega), by omega⟩
  obtain ⟨request, extra, result⟩ := r
  cases result with
  | ok order =>
      dsimp only at hconfirm hconfirmed hannounce hannounced
      refine ⟨?_, fun hblank ↦ ?_, ?_, fun hsilent ↦ ?_, by rintro _ ⟨⟩⟩
      · rintro _ ⟨⟩ haddress
        rw [if_neg haddress] at hconfirm hconfirmed
        exact ⟨hconfirm, fun c hc ↦ Multiset.mem_singleton.mp (hconfirmed c hc)⟩
      · rw [if_pos hblank] at hconfirm
        exact hnone hconfirm
      · rintro _ ⟨⟩ rfl
        rw [if_pos rfl] at hannounce hannounced
        refine ⟨hannounce.trans (Multiset.card_replicate _ _), fun m hm ↦ ?_⟩
        obtain ⟨other, hother, hm⟩ := hannounced m hm
        rwa [Multiset.eq_of_mem_replicate hother] at hm
      · rw [hsilent] at hannounce
        exact hnone hannounce
  | error error =>
      obtain ⟨hconfirmations, hunconfirmed⟩ := hnone hconfirm
      obtain ⟨hmessages, hunannounced⟩ := hnone hannounce
      exact ⟨by rintro _ ⟨⟩, fun _ ↦ ⟨hconfirmations, hunconfirmed⟩, by rintro _ ⟨⟩,
        fun _ ↦ ⟨hmessages, hunannounced⟩,
        fun _ _ ↦ Account.ext hconfirmations hunconfirmed hmessages hunannounced⟩

/-- Accounts of operations settle what gave these operations to do, one by one. -/
theorem forall₂_settles {topic : String} {announces : Bool} {returns : List Return}
    {duties : List (Multiset Duty)} {parts : List (List Finished)}
    (hgives : List.Forall₂ (Return.Gives announces) returns duties)
    (hparts : List.Forall₂ (fun d fs ↦ ↑(fs.map fun f ↦ f.operation.duty) = d) duties parts)
    (hsound : ∀ f ∈ parts.flatten, ∀ order message, f.operation.matter = .announce order message →
      message.Announces topic order) :
    List.Forall₂ (Account.Settles topic announces) returns (parts.map Account.of) := by
  induction hgives generalizing parts with
  | nil =>
      cases hparts
      exact .nil
  | cons hfirst _ ih =>
      cases hparts with
      | cons hpart hrest =>
          rw [List.flatten_cons, List.forall_mem_append] at hsound
          exact .cons (Account.of_settles hfirst hpart hsound.1) (ih hrest hsound.2)

namespace Shop

/-- Others have changed the faults and the services, which answer for themselves, but nothing that
was sent. -/
structure Changes (shop next : Shop) : Prop where
  eq : next = { shop with faults := next.faults, collaborators := next.collaborators }
  scripted : next.collaborators.scripted = .none
  sent : next.collaborators.mail.sent = shop.collaborators.mail.sent
  messages : next.collaborators.broker.messages = shop.collaborators.broker.messages

/-- `History shop returns last` says that a shop becomes `last` while orders are placed one after
another and return. In between there may be changes, time may pass, and the background may be
counted or waited for. -/
inductive History : Shop → List Return → Shop → Prop where
  | rest {shop} : History shop [] shop
  | placed {shop caller abandonAt request result next returns last} :
      shop.place caller abandonAt request = (some result, next) → History next returns last →
      History shop (⟨request, next.faults.extra, result⟩ :: returns) last
  | changed {shop next returns last} :
      shop.Changes next → History next returns last → History shop returns last
  | waited {shop moment returns last} :
      History (shop.waitUntil moment) returns last → History shop returns last
  | counted {shop returns last} : History shop.reap returns last → History shop returns last
  | drained {shop returns last} : History shop.drain.2 returns last → History shop returns last

variable {shop last : Shop} {returns : List Return}

/-- An order gives to do what it asks and what follows it, and that is done or left. -/
theorem goes_of_place {caller : Caller} {abandonAt : Option Nat} {request : OrderRequest}
    {result : Except PlacementError Order} {next : Shop}
    (h : shop.place caller abandonAt request = (some result, next)) :
    ∃ d reports, (⟨request, next.faults.extra, result⟩ : Return).Gives shop.announces d ∧
      shop.books.Goes False (loadOf shop.tasks + (d, 0)) reports next.books (loadOf next.tasks) ∧
      (shop.IsLive → next.IsLive) := by
  obtain ⟨events, hplaces⟩ := place_eq_some_iff.mp h
  obtain ⟨server, opened, closing, last, hopen, hgoes, hclose, hlive⟩ := hplaces.exists_stages False
  have hextra : next.faults.extra = shop.faults.extra := by
    obtain ⟨_, opened, _, closing, _, hopened, hhosts, hclosing⟩ := hplaces.exists_hosts
    rw [hclosing.faults_eq, hhosts.faults_eq.1, hopened.faults_eq]
  have hcalls : ∀ call ∈ callsOf events, call.request.step ≠ .sendConfirmation := by
    intro call hcall
    obtain ⟨event, hevent, hasked⟩ := List.mem_filterMap.mp hcall
    cases event with
    | asked other =>
        cases hasked
        exact (Checkout.conforms hplaces.1).isOrderly _ hevent
    | consulted | noted => cases hasked
  have hopening : shop.books.Goes False ({.place caller.context request}, 0) [] opened
      (0, {⟨caller.context, server, .place request, none⟩}) := ⟨_, _, hopen, ⟨rfl, rfl⟩, rfl⟩
  have hclosing : closing.Goes False (0, {⟨caller.context, server, .place request, none⟩})
      [.placed request result] next.books 0 := ⟨_, _, hclose, ⟨rfl, rfl⟩, rfl⟩
  -- The operation of the order is under way while everything else is done for it.
  have hmeanwhile := hgoes.frame (0, {⟨caller.context, server, .place request, none⟩})
  rw [add_comm, add_comm (loadOf next.tasks)] at hmeanwhile
  rw [← hextra] at hmeanwhile
  have hall := (hopening.frame _).trans_quiet (hmeanwhile.trans (hclosing.frame _))
  rw [zero_add, add_left_comm, owed_add_owed] at hall
  exact ⟨_, _, ⟨caller.context, caller.context.withParent server.context, callsOf events, hcalls,
    rfl⟩, hall, hlive⟩

/-- Changes are no operation, but may replace those who hear of requests. -/
theorem Changes.performs {next : Shop} (h : shop.Changes next) :
    shop.books.Performs False [] [] next.books := by
  have hbooks : next.books = { shop.books with collaborators := next.collaborators } :=
    congrArg books h.eq
  have hrefl : shop.books.Performs False [] [] shop.books := .refl shop.books
  rw [hbooks]
  exact { hrefl with
    hears_eq := False.elim
    outbox := fun _ ↦ ⟨h.scripted, h.sent, h.messages⟩ }

/-- In a history everything that orders give to do is done or left. -/
theorem History.goes (h : History shop returns last) :
    ∃ duties reports, List.Forall₂ (Return.Gives shop.announces) returns duties ∧
      shop.books.Goes False (loadOf shop.tasks + (duties.sum, 0)) reports last.books
        (loadOf last.tasks) ∧
      (shop.IsLive → last.IsLive) := by
  induction h with
  | rest =>
      exact ⟨[], [], .nil, .of_idle (.refl _) List.sum_nil _, id⟩
  | @placed shop _ _ _ _ next _ _ hplace _ ih =>
      obtain ⟨d, reports, hgives, hgoes, hlive⟩ := goes_of_place hplace
      obtain ⟨duties, more, hreturns, hrest, hlive'⟩ := ih
      rw [show next.announces = shop.announces from hgoes.announces_eq] at hreturns
      refine ⟨d :: duties, reports ++ more, .cons hgives hreturns, ?_, fun h ↦ hlive' (hlive h)⟩
      have hall := (hgoes.frame (duties.sum, 0)).trans hrest
      rw [add_assoc, owed_add_owed, ← List.sum_cons] at hall
      exact hall
  | @changed shop next _ _ hchanges _ ih =>
      obtain ⟨duties, reports, hreturns, hrest, hlive⟩ := ih
      have hgoes := fun load ↦ Books.Goes.of_performs hchanges.performs load
      have htasks : next.tasks = shop.tasks := (congrArg tasks hchanges.eq :)
      rw [show next.announces = shop.announces from hchanges.performs.announces_eq] at hreturns
      rw [htasks] at hrest
      refine ⟨duties, reports, hreturns, (hgoes _).trans_quiet hrest, fun h ↦ hlive ?_⟩
      rw [IsLive, htasks]
      exact h
  | @waited shop moment _ _ _ ih =>
      obtain ⟨duties, reports, hreturns, hrest, hlive⟩ := ih
      have hgoes := shop.waitUntil_goes False moment
      rw [show (shop.waitUntil moment).announces = shop.announces from hgoes.announces_eq]
        at hreturns
      exact ⟨duties, reports, hreturns, (hgoes.frame _).trans_quiet hrest,
        fun h ↦ hlive (waitUntil_isLive h moment)⟩
  | counted _ ih => exact ih
  | @drained shop _ _ _ ih =>
      obtain ⟨duties, reports, hreturns, hrest, hlive⟩ := ih
      have hgoes := shop.drain_goes False
      rw [show shop.drain.2.announces = shop.announces from hgoes.announces_eq] at hreturns
      exact ⟨duties, reports, hreturns, (hgoes.frame _).trans_quiet hrest,
        fun h ↦ hlive (isLive_of_nil (tasks_drain h))⟩

/-- `shop.Accounts accounts later` says that what was sent and counted between two moments is on
account of exactly one of these. -/
structure Accounts (shop : Shop) (accounts : List Account) (later : Shop) : Prop where
  sent : ∃ confirmations : List Confirmation,
    confirmations.Perm (accounts.flatMap Account.confirmations) ∧
    later.collaborators.mail.sent =
      confirmations.foldl RetainedLog.push shop.collaborators.mail.sent
  messages : ∃ messages : List Message,
    messages.Perm (accounts.flatMap Account.messages) ∧
    later.collaborators.broker.messages =
      messages.foldl RetainedLog.push shop.collaborators.broker.messages
  unconfirmed : later.metrics.count (.stepFailed .sendConfirmation) =
    shop.metrics.count (.stepFailed .sendConfirmation) + (accounts.map Account.unconfirmed).sum
  unannounced : later.metrics.count (.stepFailed .publishEvent) =
    shop.metrics.count (.stepFailed .publishEvent) + (accounts.map Account.unannounced).sum

/-- What operations leave on record is on account of them. -/
theorem accounts_of_performs {later : Shop} {started : List Started} {finished : List Finished}
    {parts : List (List Finished)} (hscripted : shop.collaborators.scripted = .none)
    (h : shop.books.Performs False started finished later.books)
    (hperm : finished.Perm parts.flatten) :
    shop.Accounts (parts.map Account.of) later := by
  obtain ⟨-, hsent, hmessages⟩ := h.outbox hscripted
  have hcount : ∀ step, (finished.filterMap Finished.setback?).count step =
      (parts.map fun fs ↦ (fs.filterMap Finished.setback?).count step).sum := by
    intro step
    rw [(hperm.filterMap _).count_eq, List.filterMap_flatten, List.count_flatten, List.map_map]
    rfl
  refine ⟨⟨_, ?_, hsent⟩, ⟨_, ?_, hmessages⟩, ?_, ?_⟩
  · rw [List.flatMap_def, List.map_map]
    exact (hperm.filterMap _).trans (by rw [List.filterMap_flatten]; rfl)
  · rw [List.flatMap_def, List.map_map]
    exact (hperm.filterMap _).trans (by rw [List.filterMap_flatten]; rfl)
  · rw [List.map_map]
    exact (h.count_eq .sendConfirmation (by decide)).trans (by rw [hcount]; rfl)
  · rw [List.map_map]
    exact (h.count_eq .publishEvent (by decide)).trans (by rw [hcount]; rfl)

/-- When orders were placed one after another in a shop that had none before, and the background has
come to rest, then no task is left, and everything that was sent and every failure that was counted
is on account of exactly one order. -/
theorem History.accounts (hscripted : shop.collaborators.scripted = .none)
    (htasks : shop.tasks = []) (h : History shop returns last) :
    last.drain.2.tasks = [] ∧
    ∃ accounts, List.Forall₂ (Account.Settles shop.settings.topic shop.announces) returns accounts ∧
      shop.Accounts accounts last.drain.2 := by
  obtain ⟨duties, reports, hreturns, hgoes, hlive⟩ := h.goes
  have hrest := tasks_drain (hlive (isLive_of_nil htasks))
  refine ⟨hrest, ?_⟩
  have hall := hgoes.trans (last.drain_goes False)
  rw [htasks, hrest, loadOf_nil, zero_add] at hall
  obtain ⟨started, finished, hperforms, hbalanced, -⟩ := hall
  obtain ⟨hoperations, hduties⟩ := hbalanced.perm_of_zero
  obtain ⟨parts, hperm, hparts⟩ := exists_perm_flatten hduties
  refine ⟨parts.map Account.of, forall₂_settles hreturns hparts ?_,
    accounts_of_performs hscripted hperforms hperm⟩
  -- A message was made when its operation was started.
  intro f hf order message hmatter
  have hmem : f.operation ∈ started.map Started.operation :=
    hoperations.mem_iff.mpr (List.mem_map_of_mem (hperm.mem_iff.mpr hf))
  obtain ⟨s, hs, hoperation⟩ := List.mem_map.mp hmem
  rw [← hoperation] at hmatter
  exact ((hperforms.started_sound s hs).message order message hmatter).1

/-- An order for the full cart of the demonstration shop, to be confirmed. -/
def demoAddressed : OrderRequest :=
  { demoRequest with email := " someone@example.com " }

/-- The demonstration shop places that order. -/
theorem exists_place_demoAddressed : ∃ order next,
    (Demo.start .standard 0 0).place .background none demoAddressed = (some (.ok order), next) := by
  have hplaced : ((Demo.start .standard 0 0).place .background none demoAddressed).1.any
      Except.isOk = true := rfl
  obtain ⟨result, next, hplace⟩ := (Demo.start .standard 0 0).exists_place .background demoAddressed
  rw [hplace] at hplaced
  cases result with
  | error => cases hplaced
  | ok order => exact ⟨order, next, hplace⟩

/-- The demonstration shop places that order, and follows it up. -/
theorem demo_accounts : ∃ order next account,
    (Demo.start .standard 0 0).place .background none demoAddressed = (some (.ok order), next) ∧
      next.drain.2.tasks = [] ∧
      Account.Settles (Demo.start .standard 0 0).settings.topic true
        ⟨demoAddressed, next.faults.extra, .ok order⟩ account ∧
      (Demo.start .standard 0 0).Accounts [account] next.drain.2 := by
  have hscripted : (Demo.start .standard 0 0).collaborators.scripted = .none := rfl
  have htasks : (Demo.start .standard 0 0).tasks = [] := rfl
  obtain ⟨order, next, hplace⟩ := exists_place_demoAddressed
  obtain ⟨hrest, accounts, hsettles, haccounts⟩ :=
    History.accounts hscripted htasks (.placed hplace .rest)
  cases hsettles with
  | cons hsettled hnil =>
      cases hnil
      exact ⟨order, next, _, hplace, hrest, hsettled, haccounts⟩

end Shop

end Storefront
