import Storefront.Proofs.Checkout.Failure
import Storefront.Proofs.Checkout.Sign
import Storefront.Proofs.Text.Blank

/-!
# What crosses the boundary

The calls that an order needs, each against everything that a collaborator can return. `Believes` is
the contract of a reply in the words of the caller, and `Judges` says what a call makes of what it
hears: a reply that keeps the contract becomes its value, one that breaks it becomes the error of
the step with an invalid response, an error of the collaborator is carried by the error of the step
whatever it is, and only an interruption of the caller is reported as one. The main theorem,
`Checkout.guards_calls`, says that all six calls judge so, on their own and in a shop.
-/

namespace Storefront

/-- A line has a product with a name and a positive quantity. -/
def CartLine.IsSound (line : CartLine) : Prop :=
  Text.trim line.product.text ≠ "" ∧ 0 < line.quantity.toNat

/-- A line may be ordered exactly if it is sound. -/
theorem CartLine.orderable_iff (line : CartLine) : line.Orderable ↔ line.IsSound := by
  have hname : Text.isBlankText line.product.text = false ↔ Text.trim line.product.text ≠ "" := by
    rw [← Bool.not_eq_true, ← Text.trim_eq_empty_iff]
  have hquantity : line.quantity ≠ 0 ↔ 0 < line.quantity.toNat := by
    rw [Nat.pos_iff_ne_zero, ne_eq, ← UInt32.toNat_inj]
    rfl
  exact and_congr hname hquantity

/-- Lines with a defect cannot all be ordered. -/
theorem CartDefect.not_orderable_of_find? {lines : List CartLine} {defect : CartDefect}
    (h : CartDefect.find? lines = some defect) : ¬∀ line ∈ lines, line.Orderable := by
  intro hall
  have hnone : CartDefect.find? lines = none := by
    simp only [CartDefect.find?, Option.or_eq_none_iff, Option.map_eq_none_iff,
      List.find?_eq_none, beq_iff_eq, Bool.not_eq_true]
    exact ⟨fun line hline ↦ (hall line hline).1, fun line hline ↦ (hall line hline).2⟩
  rw [hnone] at h
  cases h

namespace Request

/-- A reply is a name that is not blank, and is taken as it is. -/
def IsNamed (reply name : String) : Prop :=
  Text.trim reply ≠ "" ∧ name = reply

/-- `request.Believes reply value` says that the reply keeps what was asked for and that the value
is what it says: a cart of the user with sound lines, a price of the product, an amount in the
currency, a cost that is not negative, a name that is not blank. -/
def Believes : (request : Request) → request.Reply → request.Accepted → Prop
  | .getCart user, reply, cart =>
      reply.user = user ∧ (∀ line ∈ reply.lines, line.IsSound) ∧ cart.lines = reply.lines
  | .getProduct product, reply, price => reply.product = product ∧ reply.price = some price
  | .getQuote .., reply, cost => reply = some cost ∧ 0 ≤ cost.total
  | .convert _ target, reply, amount => reply.currency = target ∧ amount = reply
  | .charge .., reply, name => IsNamed reply name
  | .shipOrder .., reply, name => IsNamed reply name
  | .emptyCart _, _, _ => True
  | .confirm _, _, _ => True

/-- What is checked is a contract: a value that is accepted may be believed, and of a reply that is
refused nothing may. -/
inductive Checks {α β : Type} (believes : α → β → Prop) (reply : α) : Except String β → Prop where
  | accepted {value} : believes reply value → Checks believes reply (.ok value)
  | refused (reason) : (∀ value, ¬believes reply value) → Checks believes reply (.error reason)

/-- A cart is accepted exactly if it is the user's and its lines are sound. -/
theorem checks_cart (user : UserId) (reply : CartReply) :
    Checks (Believes (.getCart user)) reply (checkCart user reply) := by
  unfold checkCart
  split
  · rename_i huser
    unfold Cart.ofLines
    split
    · rename_i defect hdefect
      refine .refused _ fun cart hbelieved ↦ CartDefect.not_orderable_of_find? hdefect ?_
      intro line hline
      exact line.orderable_iff.mpr (hbelieved.2.1 line hline)
    · rename_i hnone
      refine .accepted ⟨huser, fun line hline ↦ line.orderable_iff.mp ?_, rfl⟩
      exact CartDefect.orderable_of_find?_eq_none hnone line hline
  · rename_i huser
    exact .refused _ fun cart hbelieved ↦ huser hbelieved.1

/-- A price is accepted exactly if it is there and the product's. -/
theorem checks_price (product : ProductId) (reply : ProductReply) :
    Checks (Believes (.getProduct product)) reply (checkPrice product reply) := by
  unfold checkPrice
  split
  · rename_i hproduct
    split
    · rename_i price hprice
      exact .accepted ⟨hproduct, hprice⟩
    · rename_i hprice
      refine .refused _ fun price hbelieved ↦ ?_
      have hsome : reply.price = some price := hbelieved.2
      rw [hprice] at hsome
      cases hsome
  · rename_i hproduct
    exact .refused _ fun price hbelieved ↦ hproduct hbelieved.1

/-- A quote is accepted exactly if it has a cost that is not negative. -/
theorem checks_quote (address : Address) (lines : List CartLine) (reply : Option Money) :
    Checks (Believes (.getQuote address lines)) reply (checkQuote reply) := by
  cases reply with
  | none => exact .refused _ fun cost hbelieved ↦ nomatch hbelieved.1
  | some cost =>
      unfold checkQuote
      dsimp only
      split
      · rename_i hnegative
        refine .refused _ fun other hbelieved ↦ ?_
        obtain ⟨hsame, htotal⟩ := hbelieved
        cases hsame
        have := cost.isNegative_iff.mp hnegative
        omega
      · rename_i hsign
        refine .accepted ⟨rfl, ?_⟩
        rw [cost.isNegative_iff] at hsign
        omega

/-- An amount is accepted exactly if it is in the currency. -/
theorem checks_conversion (source : Money) (target : CurrencyCode) (reply : Money) :
    Checks (Believes (.convert source target)) reply (checkConversion target reply) := by
  unfold checkConversion
  split
  · rename_i hcurrency
    exact .accepted ⟨hcurrency, rfl⟩
  · rename_i hcurrency
    exact .refused _ fun amount hbelieved ↦ hcurrency hbelieved.1

/-- A name is accepted exactly if it is not blank. -/
theorem checks_name (complaint reply : String) :
    Checks IsNamed reply (checkName complaint reply) := by
  unfold checkName
  split
  · rename_i hblank
    have htrim := (Text.trim_eq_empty_iff reply).mpr hblank
    exact .refused _ fun name hbelieved ↦ hbelieved.1 htrim
  · rename_i hname
    exact .accepted ⟨fun htrim ↦ hname ((Text.trim_eq_empty_iff reply).mp htrim), rfl⟩

/-- What is checked of any reply is the contract. -/
theorem checks (request : Request) (reply : request.Reply) :
    Checks request.Believes reply (request.check reply) := by
  cases request with
  | getCart user => exact checks_cart user reply
  | getProduct product => exact checks_price product reply
  | getQuote address lines => exact checks_quote address lines reply
  | convert amount target => exact checks_conversion amount target reply
  | charge amount card diverted => exact checks_name _ reply
  | shipOrder address lines => exact checks_name _ reply
  | emptyCart user => exact .accepted trivial
  | confirm confirmation => exact .accepted trivial

/-- What is heard of a request: its caller is interrupted, or a collaborator returns an error or a
reply of any kind. -/
abbrev Hearing (request : Request) : Type :=
  Except Interruption (Except TransportError request.Reply)

/-- The answer that comes of what is heard. -/
def answerTo (request : Request) : request.Hearing → Except CallFailure request.Accepted
  | .error reason => .error (.interrupted reason)
  | .ok returned => (request.accept returned).mapError .transport

/-- `request.Judges own heard result` says what a call whose step has the error `own` makes of what
it hears. -/
inductive Judges (request : Request) (own : TransportError → PlacementError) :
    request.Hearing → Except PlacementError request.Accepted → Prop where
  | believed {reply value} : request.Believes reply value →
      Judges request own (.ok (.ok reply)) (.ok value)
  | doubted {reply} (reason) : (∀ value, ¬request.Believes reply value) →
      Judges request own (.ok (.ok reply)) (.error (own (.invalidResponse reason)))
  | failed (cause) : Judges request own (.ok (.error cause)) (.error (own cause))
  | cancelled : Judges request own (.error .cancelled) (.error (.cancelled request.step))
  | overdue : Judges request own (.error .deadlineExceeded)
      (.error (.deadlineExceeded request.step))

/-- Every call judges so that wraps its failure in the error of its step. -/
theorem judges (request : Request) (own : TransportError → PlacementError)
    (heard : request.Hearing) :
    request.Judges own heard
      ((request.answerTo heard).mapError (PlacementError.ofCall request.step own)) := by
  match heard with
  | .error .cancelled => exact .cancelled
  | .error .deadlineExceeded => exact .overdue
  | .ok (.error cause) => exact .failed cause
  | .ok (.ok reply) =>
      have haccept : request.answerTo (.ok (.ok reply)) =
          ((request.check reply).mapError TransportError.invalidResponse).mapError .transport := rfl
      rw [haccept]
      generalize request.check reply = checked, request.checks reply = hchecks
      cases hchecks with
      | accepted hbelieved => exact .believed hbelieved
      | refused reason hnone => exact .doubted reason hnone

end Request

/-- All that a dialogue meets: what is heard of each request, and whether charges are diverted. -/
structure World where
  hears : (request : Request) → request.Hearing
  diverts : Bool

/-- How a dialogue ends in a world. -/
def Dialogue.against {α : Type} (world : World) : Dialogue α → α
  | .done value => value
  | .ask request next => (next (request.answerTo (world.hears request))).against world
  | .consult next => (next world.diverts).against world
  | .note _ next => next.against world

namespace Shop

/-- What is heard of a request that is sent now and waited for: the interruption of the caller if
one comes first, and otherwise what the collaborator returns at the end of its delay. -/
def hears (shop : Shop) (caller : Caller) (request : Request) : request.Hearing :=
  let (sent, sending) := shop.send caller request
  match sent.interruption with
  | some reason => .error reason
  | none =>
      let waited := (sending.waitOrAbandon none sent.time).2
      .ok (waited.collaborators.answer request sent.isScripted).1

/-- A caller without limits hears what the collaborator returns. -/
theorem hears_of_limits_none (shop : Shop) {caller : Caller} (hlimits : caller.limits = .none)
    (request : Request) : ∃ returned, shop.hears caller request = .ok returned := by
  unfold hears
  dsimp only
  rw [shop.interruption_send hlimits request]
  exact ⟨_, rfl⟩

/-- The world of one call in a shop. -/
def world (shop : Shop) (caller : Caller) : World :=
  ⟨shop.hears caller, shop.faults.divert⟩

/-- The answer to a call is the one that comes of what is heard. -/
theorem call_eq_answerTo (shop : Shop) (caller : Caller) (abandonAt : Option Nat)
    (request : Request) :
    (shop.call caller abandonAt request).1 =
        some (request.answerTo (shop.hears caller request)) ∨
      abandonAt.isSome = true ∧ (shop.call caller abandonAt request).1 = none := by
  have hsettled : ∀ waited : Shop, waited =
      ((shop.send caller request).2.waitOrAbandon none (shop.send caller request).1.time).2 →
      (waited.settle request (shop.send caller request).1).1 =
        request.answerTo (shop.hears caller request) := by
    rintro _ rfl
    unfold hears
    dsimp only
    generalize (shop.send caller request).2.waitOrAbandon none _ = waited
    obtain ⟨span, hsettle⟩ := waited.2.exists_settle_eq request (shop.send caller request).1
    rw [hsettle, answerUnless]
    cases (shop.send caller request).1.interruption <;> rfl
  unfold call
  dsimp only
  rcases (shop.send caller request).2.waitOrAbandon_cases abandonAt
    (shop.send caller request).1.time with hwait | ⟨habandon, hwait⟩
  · left
    rw [hwait, if_pos (by rw [waitOrAbandon_none_eq])]
    exact congrArg some (hsettled _ rfl)
  · right
    rw [hwait]
    exact ⟨habandon, rfl⟩

end Shop

/-- `Guards request client own` says that a placement is one call that lets nothing in unchecked:
it judges all that can be heard, the error of its step names the step, carries its cause, and is
never the one of an interruption, and in a shop the call ends as what is heard there is judged,
unless it is abandoned, and nobody but the caller interrupts it. -/
structure Guards (request : Request) (client : Placement request.Accepted)
    (own : TransportError → PlacementError) : Prop where
  judges (world : World) :
    request.Judges own (world.hears request) (client.run.against world)
  step_own (cause : TransportError) : (own cause).step = request.step
  transport?_own (cause : TransportError) : (own cause).transport? = some cause
  isInterruption_own (cause : TransportError) : (own cause).isInterruption = false
  hosted (shop : Shop) (caller : Caller) (abandonAt : Option Nat) (span : Span) :
    (Shop.converse caller abandonAt client.run span shop).1 =
        some (client.run.against (shop.world caller)) ∨
      abandonAt.isSome = true ∧ (Shop.converse caller abandonAt client.run span shop).1 = none
  returned (shop : Shop) (caller : Caller) : caller.limits = .none →
    ∃ returned, shop.hears caller request = .ok returned

/-- A call guards the order if its failures are wrapped in the error of its step. -/
theorem Guards.of_ask {request : Request} {own : TransportError → PlacementError}
    (hown : request.ownError? = some own) : Guards request (Placement.ask request own) own where
  judges world := request.judges own (world.hears request)
  step_own cause := (Request.ownError_spec hown cause).1
  transport?_own cause := (Request.ownError_spec hown cause).2
  isInterruption_own cause := by
    have hcarried := (Request.ownError_spec hown cause).2
    cases herror : own cause with
    | cancelled | deadlineExceeded =>
        rw [herror] at hcarried
        cases hcarried
    | _ => rfl
  hosted shop caller abandonAt span := by
    unfold Placement.ask ExceptT.mk ExceptT.run Shop.converse
    rcases shop.call_eq_answerTo caller abandonAt request with hcall | ⟨habandon, hcall⟩
    · left
      split
      · rename_i answer next hanswered
        rw [hanswered] at hcall
        cases hcall
        rfl
      · rename_i next hanswered
        rw [hanswered] at hcall
        cases hcall
    · right
      split
      · rename_i answer next hanswered
        rw [hanswered] at hcall
        cases hcall
      · exact ⟨habandon, rfl⟩
  returned shop _ hlimits := shop.hears_of_limits_none hlimits request

/-- Nothing crosses the boundary unchecked: each of the six calls that an order needs believes a
reply exactly if it keeps the contract, and otherwise ends with the error of its own step. -/
theorem Checkout.guards_calls (user : UserId) (product : ProductId) (amount : Money)
    (target : CurrencyCode) (address : Address) (lines : List CartLine) (card : Card)
    (diverted : Bool) :
    Guards (.getCart user) (cart user) (.cartUnavailable user) ∧
      Guards (.getProduct product) (price product) (.catalogUnavailable product) ∧
      Guards (.convert amount target) (convert amount target)
        (.pricingUnavailable amount.currency target) ∧
      Guards (.getQuote address lines) (quote address lines) .shippingQuoteFailed ∧
      Guards (.charge amount card diverted) (charge amount card diverted) .paymentFailed ∧
      Guards (.shipOrder address lines) (ship address lines) .shippingFailed :=
  ⟨.of_ask rfl, .of_ask rfl, .of_ask rfl, .of_ask rfl, .of_ask rfl, .of_ask rfl⟩

end Storefront
