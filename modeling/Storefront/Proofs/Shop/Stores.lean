import Storefront.Proofs.Shop.Hosting
import Storefront.Proofs.Shop.Work

/-!
# What a conversation changes

A call changes the stores exactly as its answer says, because a service that is interrupted does
nothing and one that fails changes nothing. So the stores after a conversation are those before it
with the answers entered one after the other, `Hosts.stores_eq`, and nothing is sent on the way that
was not owed, `Hosts.sends`. This is for services that answer for themselves: an answer that is
scripted says nothing about the stores.
-/

namespace Storefront

/-- A name that counts is not blank. -/
theorem isBlankText_countedName (word : String) (n : Nat) :
    Text.isBlankText (countedName word n) = false := by
  unfold countedName Text.isBlankText
  simp [Text.isBlank]

/-- The payments when an amount has been taken under a name. -/
def Payments.taken (p : Payments) (name : String) (amount : Money) : Payments :=
  { p with charges := p.charges.push (name, amount), lastNumber := p.lastNumber + 1 }

/-- The shipping service when it has accepted a shipment. -/
def Shipping.accepted (s : Shipping) (shipment : Shipment) : Shipping :=
  { s with shipments := s.shipments.push shipment, lastNumber := s.lastNumber + 1 }

/-- The lines of a cart that is accepted are those of the reply. -/
theorem lines_of_ofLines {lines : List CartLine} {cart : Cart} (h : Cart.ofLines lines = .ok cart) :
    cart.lines = lines := by
  unfold Cart.ofLines at h
  split at h
  · cases h
  · cases h
    rfl

/-- A cart that is accepted of the service has the lines that are stored. -/
theorem lines_of_read {carts : Carts} {user : UserId} {cart : Cart}
    (h : (Request.getCart user).accept (carts.read user) = .ok cart) :
    cart.lines = carts.lines user := by
  unfold Carts.read at h
  split at h
  · cases h
  -- The reply names the user who asked, so only its lines are left to be checked.
  · have hcheck : Request.checkCart user ⟨user, carts.lines user⟩ = .ok cart := eq_ok_of_mapError h
    unfold Request.checkCart at hcheck
    rw [if_pos rfl] at hcheck
    exact lines_of_ofLines (eq_ok_of_mapError hcheck)

namespace Collaborators

/-- The collaborators when a call has had its effect: an answer is the only thing that tells. -/
def after (c : Collaborators) : Call → Collaborators
  | ⟨.charge amount _ _, .ok name⟩ => { c with payments := c.payments.taken name amount }
  | ⟨.shipOrder address lines, .ok name⟩ =>
      { c with shipping := c.shipping.accepted ⟨name, address, lines⟩ }
  | ⟨.emptyCart user, .ok _⟩ => { c with carts := c.carts.clear user }
  | _ => c

/-- A call that fails changes nothing. -/
@[simp] theorem after_error (c : Collaborators) (request : Request) (failure : CallFailure) :
    c.after ⟨request, .error failure⟩ = c := by
  cases request <;> rfl

/-- No call sets a script. -/
@[simp] theorem scripted_after (c : Collaborators) (call : Call) :
    (c.after call).scripted = c.scripted := by
  unfold after
  split <;> rfl

/-- Only payments, shipments, and carts are changed by calls. -/
theorem foldl_after_eq (c : Collaborators) (calls : List Call) :
    calls.foldl after c =
      { c with
        payments := (calls.foldl after c).payments
        shipping := (calls.foldl after c).shipping
        carts := (calls.foldl after c).carts } := by
  induction calls generalizing c with
  | nil => rfl
  | cons call rest ih =>
      have hafter : c.after call = { c with
          payments := (c.after call).payments
          shipping := (c.after call).shipping
          carts := (c.after call).carts } := by
        unfold after
        split <;> rfl
      rw [List.foldl_cons]
      refine (ih _).trans ?_
      generalize rest.foldl after (c.after call) = last
      rw [hafter]

/-- Nothing is answered by no script. -/
theorem answer?_none (request : Request) : Scripted.none.answer? request = none := by
  cases request with
  | charge amount card diverted => cases diverted <;> rfl
  | getCart | getProduct | getQuote | convert | shipOrder | emptyCart | confirm => rfl

/-- Without a script the services answer. -/
theorem answer_eq_serviceAnswer (c : Collaborators) (h : c.scripted = .none) (request : Request)
    (isScripted : Bool) : c.answer request isScripted = c.serviceAnswer request := by
  unfold answer
  rw [h, answer?_none, ite_self]

/-- A name that counts is accepted of a payment or a shipment. -/
theorem accept_countedName (word : String) (n : Nat) :
    (∀ amount card diverted,
      (Request.charge amount card diverted).accept (.ok (countedName word n)) =
        .ok (countedName word n)) ∧
    ∀ address lines,
      (Request.shipOrder address lines).accept (.ok (countedName word n)) =
        .ok (countedName word n) := by
  have hcheck : ∀ complaint : String,
      Request.checkName complaint (countedName word n) = .ok (countedName word n) := by
    intro complaint
    unfold Request.checkName
    rw [isBlankText_countedName]
    rfl
  constructor
  · intro amount card diverted
    show (Request.checkName _ _).mapError _ = _
    rw [hcheck]
    rfl
  · intro address lines
    show (Request.checkName _ _).mapError _ = _
    rw [hcheck]
    rfl

/-- A service changes the stores as its answer says. -/
theorem stores_serviceAnswer (c : Collaborators) (request : Request) :
    (c.serviceAnswer request).2.stores = c.stores.after
      ⟨request, (request.accept (c.serviceAnswer request).1).mapError .transport⟩ := by
  cases request with
  | getCart | getProduct | getQuote | convert => rfl
  | charge amount card diverted =>
      unfold serviceAnswer charge Payments.charge
      dsimp only
      split
      · rfl
      split
      · rfl
      -- What was taken has a name that is accepted, so no charge is taken behind a failure.
      · rw [(accept_countedName _ _).1]
        rfl
  | shipOrder address lines =>
      unfold serviceAnswer Shipping.ship
      dsimp only
      split
      · rfl
      · rw [(accept_countedName _ _).2]
        rfl
  | emptyCart user =>
      unfold serviceAnswer Carts.emptyCart
      dsimp only
      split <;> rfl
  | confirm confirmation =>
      unfold serviceAnswer confirm Mail.send
      dsimp only
      split
      · rfl
      split <;> rfl

/-- Only a confirmation is sent by answering a call. -/
theorem outbox_answer (c : Collaborators) {request : Request}
    (h : request.step ≠ .sendConfirmation) (isScripted : Bool) :
    (c.answer request isScripted).2.mail = c.mail ∧
      (c.answer request isScripted).2.broker = c.broker := by
  unfold answer
  split
  · exact ⟨rfl, rfl⟩
  · cases request with
    | getCart | getProduct | getQuote | convert | shipOrder | emptyCart => exact ⟨rfl, rfl⟩
    | charge amount card diverted =>
        unfold serviceAnswer charge
        dsimp only
        split <;> exact ⟨rfl, rfl⟩
    | confirm => exact absurd rfl h

end Collaborators

namespace Shop

variable {caller : Caller} {abandonAt : Option Nat} {shop final next : Shop} {span last : Span}

/-- What the end of a call changes besides the stores. -/
theorem settle_keeps (shop : Shop) (request : Request) (sent : Sent) :
    (shop.settle request sent).2.faults = shop.faults ∧
      (shop.settle request sent).2.tasks = shop.tasks ∧
      (request.step ≠ .sendConfirmation →
        (shop.settle request sent).2.collaborators.mail = shop.collaborators.mail ∧
        (shop.settle request sent).2.collaborators.broker = shop.collaborators.broker) := by
  obtain ⟨span, hsettle⟩ := shop.exists_settle_eq request sent
  rw [hsettle]
  unfold answerUnless
  cases sent.interruption with
  | some reason => exact ⟨rfl, rfl, fun _ ↦ ⟨rfl, rfl⟩⟩
  | none => exact ⟨rfl, rfl, fun h ↦ shop.collaborators.outbox_answer h sent.isScripted⟩

/-- The end of a call changes the stores as its answer says. -/
theorem stores_settle (shop : Shop) (h : shop.collaborators.scripted = .none) (request : Request)
    (sent : Sent) :
    (shop.settle request sent).2.collaborators.stores =
      shop.collaborators.stores.after ⟨request, (shop.settle request sent).1⟩ := by
  obtain ⟨span, hsettle⟩ := shop.exists_settle_eq request sent
  rw [hsettle]
  unfold answerUnless
  cases sent.interruption with
  | some reason => exact (Collaborators.after_error _ request _).symm
  | none =>
      unfold answer
      rw [Collaborators.answer_eq_serviceAnswer _ h]
      exact Collaborators.stores_serviceAnswer _ request

/-- A wait lets the background work. -/
theorem waitOrAbandon_passes (shop : Shop) (abandonAt : Option Nat) (moment : Nat) :
    shop.Passes 0 (shop.waitOrAbandon abandonAt moment).2 := by
  unfold waitOrAbandon
  split
  · exact .refl shop
  · cases abandonAt with
    | none => exact shop.waitUntil_passes moment
    | some early =>
        dsimp only
        split <;> exact shop.waitUntil_passes _

/-- A call that is not abandoned ends as it was sent, when the background has passed. -/
theorem exists_waiting_of_call {request : Request} {answer : Except CallFailure request.Accepted}
    (h : shop.call caller abandonAt request = (some answer, next)) :
    ∃ waiting, shop.Passes 0 waiting ∧
      waiting.settle request (shop.send caller request).1 = (answer, next) := by
  -- Between its start and its end a call only waits, and then the background works.
  have hsend : shop.Passes 0 (shop.send caller request).2 :=
    .of_serves (shop.send_serves caller request 0) rfl rfl (add_zero _).symm
  exact ⟨_, hsend.trans (waitUntil_passes _ _), settle_of_call h⟩

/-- A call that is not abandoned is sent, waited for, and ended. -/
theorem exists_settle_of_call {request : Request} {answer : Except CallFailure request.Accepted}
    (h : shop.call caller abandonAt request = (some answer, next)) :
    ∃ waiting sent, shop.Passes 0 waiting ∧ waiting.settle request sent = (answer, next) := by
  obtain ⟨waiting, hpasses, hsettle⟩ := exists_waiting_of_call h
  exact ⟨waiting, _, hpasses, hsettle⟩

/-- A call changes the stores as its answer says. -/
theorem stores_call {request : Request} {answer : Except CallFailure request.Accepted}
    (hscripted : shop.collaborators.scripted = .none)
    (h : shop.call caller abandonAt request = (some answer, next)) :
    next.collaborators.stores = shop.collaborators.stores.after ⟨request, answer⟩ := by
  obtain ⟨waiting, sent, hpasses, hsettle⟩ := exists_settle_of_call h
  have hwaiting : waiting.collaborators.scripted = .none :=
    (congrArg Collaborators.scripted hpasses.stores_eq).trans hscripted
  have hstores := waiting.stores_settle hwaiting request sent
  rw [hsettle] at hstores
  rw [hstores, hpasses.stores_eq]

/-- A call for anything but a confirmation sends only what tasks owe. -/
theorem call_passes {request : Request} {answer : Except CallFailure request.Accepted}
    (h : shop.call caller abandonAt request = (some answer, next)) :
    next.faults = shop.faults ∧ (request.step ≠ .sendConfirmation →
      shop.collaborators.Sends (owedBy shop.tasks) next.collaborators (owedBy next.tasks)) := by
  obtain ⟨waiting, sent, hpasses, hsettle⟩ := exists_settle_of_call h
  obtain ⟨hfaults, htasks, houtbox⟩ := waiting.settle_keeps request sent
  rw [hsettle] at hfaults htasks houtbox
  refine ⟨hfaults.trans hpasses.faults_eq, fun hstep ↦ ?_⟩
  obtain ⟨hmail, hbroker⟩ := houtbox hstep
  obtain ⟨confirmations, messages, hsent, hmessages, howed⟩ := hpasses.sends
  rw [add_zero] at howed
  exact ⟨confirmations, messages, by rw [hmail, hsent], by rw [hbroker, hmessages], by rwa [htasks]⟩

/-- What comes of a call that was answered is accepted of the answer of the service. -/
theorem accept_of_settle {request : Request} {sent : Sent} {accepted : request.Accepted}
    (hscripted : shop.collaborators.scripted = .none)
    (h : shop.settle request sent = (.ok accepted, next)) :
    request.accept (shop.collaborators.serviceAnswer request).1 = .ok accepted := by
  obtain ⟨span, hsettle⟩ := shop.exists_settle_eq request sent
  rw [hsettle] at h
  have hanswer : (shop.answerUnless request sent).1 = .ok accepted := congrArg Prod.fst h
  unfold answerUnless at hanswer
  cases hinterruption : sent.interruption with
  | some reason =>
      rw [hinterruption] at hanswer
      cases hanswer
  | none =>
      rw [hinterruption] at hanswer
      unfold answer at hanswer
      rw [Collaborators.answer_eq_serviceAnswer _ hscripted] at hanswer
      exact eq_ok_of_mapError hanswer

/-- The cart that is accepted of a call is the one that the shop has. -/
theorem lines_of_call {user : UserId} {cart : Cart}
    (hscripted : shop.collaborators.scripted = .none)
    (h : shop.call caller abandonAt (.getCart user) = (some (.ok cart), next)) :
    cart.lines = shop.collaborators.carts.lines user := by
  obtain ⟨waiting, sent, hpasses, hsettle⟩ := exists_settle_of_call h
  have hwaiting : waiting.collaborators.scripted = .none :=
    (congrArg Collaborators.scripted hpasses.stores_eq).trans hscripted
  have hcarts : waiting.collaborators.carts = shop.collaborators.carts :=
    (congrArg Collaborators.carts hpasses.stores_eq :)
  rw [← hcarts]
  exact lines_of_read (accept_of_settle hwaiting hsettle)

/-- A note changes neither the faults nor the collaborators, and leaves a task only if an order is
complete. -/
theorem note_keeps (shop : Shop) (caller : Caller) (span : Span) (n : Note) :
    (shop.note caller span n).2.faults = shop.faults ∧
      (shop.note caller span n).2.collaborators = shop.collaborators ∧
      ((∀ order email, n ≠ .completed order email) →
        (shop.note caller span n).2.tasks = shop.tasks) := by
  cases n with
  | completed order email =>
      refine ⟨?_, ?_, fun h ↦ absurd rfl (h order email)⟩
      · unfold note followUp startConfirmation startAnnouncement
        dsimp only
        split <;> split <;> rfl
      · unfold note followUp startConfirmation startAnnouncement
        dsimp only
        split <;> split <;> rfl
  | _ => exact ⟨rfl, rfl, fun _ ↦ rfl⟩

end Shop

/-- The event neither sends a confirmation nor leaves a task that sends anything. -/
def Event.IsQuiet : Event → Prop
  | .asked call => call.request.step ≠ .sendConfirmation
  | .consulted _ => True
  | .noted n => ∀ order email, n ≠ .completed order email

namespace Shop.Hosts

variable {caller : Caller} {abandonAt : Option Nat} {shop final : Shop} {span last : Span}
  {events first rest : List Event}

/-- A conversation in two parts is a conversation and then another. -/
theorem split (h : Hosts caller abandonAt span shop (first ++ rest) last final) :
    ∃ between middle, Hosts caller abandonAt span shop first between middle ∧
      Hosts caller abandonAt between middle rest last final := by
  induction first generalizing span shop with
  | nil => exact ⟨span, shop, .done, h⟩
  | cons event first ih =>
      cases h with
      | asked hcall h =>
          obtain ⟨between, middle, hfirst, hrest⟩ := ih h
          exact ⟨between, middle, .asked hcall hfirst, hrest⟩
      | consulted h =>
          obtain ⟨between, middle, hfirst, hrest⟩ := ih h
          exact ⟨between, middle, .consulted hfirst, hrest⟩
      | noted h =>
          obtain ⟨between, middle, hfirst, hrest⟩ := ih h
          exact ⟨between, middle, .noted hfirst, hrest⟩

/-- The faults stay as they are, and they decide whether charges are diverted. -/
theorem faults_eq (h : Hosts caller abandonAt span shop events last final) :
    final.faults = shop.faults ∧
      ∀ diverted ∈ consultations events, diverted = shop.faults.divert := by
  induction h with
  | done => exact ⟨rfl, nofun⟩
  | asked hcall _ ih =>
      rw [← (call_passes hcall).1]
      exact ih
  | consulted _ ih =>
      refine ⟨ih.1, ?_⟩
      rintro _ (_ | ⟨_, hmem⟩)
      · rfl
      · exact ih.2 _ hmem
  | @noted span shop n _ _ _ _ ih =>
      rw [← (shop.note_keeps caller span n).1]
      exact ih

/-- The stores change by the answers, one after the other. -/
theorem stores_eq (hscripted : shop.collaborators.scripted = .none)
    (h : Hosts caller abandonAt span shop events last final) :
    final.collaborators.stores =
      (callsOf events).foldl Collaborators.after shop.collaborators.stores := by
  induction h with
  | done => rfl
  | @asked _ shop request answer next _ _ _ hcall _ ih =>
      have hstores := stores_call hscripted hcall
      -- The induction goes on from the next shop, which has no script either.
      have hnext : next.collaborators.scripted = .none := by
        show next.collaborators.stores.scripted = .none
        rw [hstores, Collaborators.scripted_after]
        exact hscripted
      rw [callsOf_asked, List.foldl_cons, ← hstores]
      exact ih hnext
  | consulted _ ih => exact ih hscripted
  | @noted span shop n _ _ _ _ ih =>
      obtain ⟨-, hcollaborators, -⟩ := shop.note_keeps caller span n
      rw [hcollaborators] at ih
      exact ih hscripted

/-- A conversation without a confirmation and without a complete order sends only what tasks owe. -/
theorem sends (hquiet : ∀ event ∈ events, event.IsQuiet)
    (h : Hosts caller abandonAt span shop events last final) :
    shop.collaborators.Sends (owedBy shop.tasks) final.collaborators (owedBy final.tasks) := by
  induction h with
  | done => exact .refl _ _
  | asked hcall _ ih =>
      obtain ⟨hasked, hquiet⟩ := List.forall_mem_cons.mp hquiet
      exact ((call_passes hcall).2 hasked).trans (ih hquiet)
  | consulted _ ih => exact ih (List.forall_mem_cons.mp hquiet).2
  | @noted span shop n _ _ _ _ ih =>
      obtain ⟨hnoted, hquiet⟩ := List.forall_mem_cons.mp hquiet
      obtain ⟨-, hcollaborators, htasks⟩ := shop.note_keeps caller span n
      have hrest := ih hquiet
      rwa [hcollaborators, htasks hnoted] at hrest

end Shop.Hosts

end Storefront
