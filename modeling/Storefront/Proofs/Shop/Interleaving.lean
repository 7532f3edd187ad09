import Storefront.Proofs.Checkout.Total
import Storefront.Proofs.Shop.Outcome

/-!
# Carts that are filled during a checkout

Others may put something into carts at any moment of a checkout: between two calls, and while a call
waits. `Amid` are the conversations of a shop with such additions in between; without any they are
those of the shop, `place_eq_some_iff_placesAmid`. A cart is emptied as it is at that moment, so
what was added after it had been read goes with it, `addition_after_reading_is_lost`. The main
theorem, `additions_after_emptying_stay`, says exactly what is in the carts when an order has been
placed: what was added after the cart was emptied, or, if it was not emptied, everything.
-/

namespace Storefront

/-- Something that happens during a checkout: in its conversation, or by somebody else who puts a
line into the cart of a user. -/
inductive Happening where
  | event (event : Event)
  | added (user : UserId) (line : CartLine)

namespace Happening

/-- What happens in the conversation. -/
def event? : Happening → Option Event
  | event e => some e
  | added .. => none

/-- What is put into the cart of a user. -/
def addition? (user : UserId) : Happening → Option CartLine
  | event _ => none
  | added other line => if other = user then some line else none

end Happening

/-- What happens in the conversation, in order. -/
def eventsOf (happenings : List Happening) : List Event :=
  happenings.filterMap Happening.event?

/-- What is put into the cart of a user, in order. -/
def additionsTo (user : UserId) (happenings : List Happening) : List CartLine :=
  happenings.filterMap (Happening.addition? user)

/-- Lines that are put into carts, one after the other. -/
def additions (lines : List (UserId × CartLine)) : List Happening :=
  lines.map fun (user, line) ↦ .added user line

/-- Where nothing is added everything happens in the conversation. -/
@[simp] theorem eventsOf_map_event (events : List Event) :
    eventsOf (events.map .event) = events := by
  unfold eventsOf
  rw [List.filterMap_map]
  exact List.filterMap_some

/-- Additions are not part of the conversation. -/
theorem eventsOf_additions_append (lines : List (UserId × CartLine)) (rest : List Happening) :
    eventsOf (additions lines ++ rest) = eventsOf rest := by
  induction lines with
  | nil => rfl
  | cons _ _ ih => exact ih

@[simp] theorem additionsTo_append (user : UserId) (first rest : List Happening) :
    additionsTo user (first ++ rest) = additionsTo user first ++ additionsTo user rest :=
  List.filterMap_append

@[simp] theorem additionsTo_event (user : UserId) (event : Event) (rest : List Happening) :
    additionsTo user (.event event :: rest) = additionsTo user rest := rfl

namespace Carts

/-- The lines of a cart into which others are put. -/
def filled (lines added : List CartLine) : List CartLine :=
  added.foldl (fun lines line ↦ addLine line lines) lines

/-- How much of a product there is in lines. -/
def quantityOf (product : ProductId) : List CartLine → UInt32
  | [] => 0
  | l :: rest => (if l.product = product then l.quantity else 0) + quantityOf product rest

@[simp] theorem quantityOf_nil (product : ProductId) : quantityOf product [] = 0 := rfl

@[simp] theorem quantityOf_cons (product : ProductId) (line : CartLine) (rest : List CartLine) :
    quantityOf product (line :: rest) =
      (if line.product = product then line.quantity else 0) + quantityOf product rest := rfl

/-- A line that is put into a cart adds its quantity. -/
theorem quantityOf_addLine (product : ProductId) (line : CartLine) (lines : List CartLine) :
    quantityOf product (addLine line lines) =
      (if line.product = product then line.quantity else 0) + quantityOf product lines := by
  induction lines with
  | nil => rfl
  | cons l rest ih =>
      unfold addLine
      split
      · rename_i hsame
        rw [quantityOf_cons, quantityOf_cons, hsame, ← UInt32.add_assoc]
        split
        · rw [UInt32.add_comm line.quantity]
        · rw [UInt32.add_zero]
      · rw [quantityOf_cons, ih, quantityOf_cons, ← UInt32.add_assoc, ← UInt32.add_assoc,
          UInt32.add_comm (if l.product = product then _ else _)]

/-- What is put into a cart is in it with all its quantity. -/
theorem quantityOf_filled (product : ProductId) (lines added : List CartLine) :
    quantityOf product (filled lines added) =
      quantityOf product lines + quantityOf product added := by
  induction added generalizing lines with
  | nil => exact (UInt32.add_zero _).symm
  | cons line rest ih =>
      show quantityOf product (filled (addLine line lines) rest) = _
      rw [ih, quantityOf_addLine, quantityOf_cons, ← UInt32.add_assoc,
        UInt32.add_comm (quantityOf product lines)]

/-- What is put into a cart is in it, and nobody else's cart is touched. -/
theorem lines_add (c : Carts) (user other : UserId) (line : CartLine) :
    (c.add user line).lines other =
      if user = other then addLine line (c.lines other) else c.lines other := by
  unfold add lines
  dsimp only
  rw [Dict.get?_insert]
  by_cases h : user = other
  · rw [h, if_pos rfl, if_pos rfl]
    rfl
  · rw [if_neg h, if_neg fun htext ↦ h ((UserId.mk.injEq ..).mpr htext)]

/-- A cart that is removed is empty, and nobody else's cart is touched. -/
theorem lines_clear (c : Carts) (user other : UserId) :
    (c.clear user).lines other = if user = other then [] else c.lines other := by
  unfold clear lines
  dsimp only
  rw [Dict.get?_erase]
  by_cases h : user = other
  · rw [h, if_pos rfl, if_pos rfl]
    rfl
  · rw [if_neg h, if_neg fun htext ↦ h ((UserId.mk.injEq ..).mpr htext)]

end Carts

/-- The user whose cart is emptied by an event. -/
def Event.emptied? : Event → Option UserId
  | .asked ⟨.emptyCart user, .ok _⟩ => some user
  | .asked _ | .consulted _ | .noted _ => none

/-- Where no cart is asked to be emptied none is. -/
theorem emptied?_eq_none {events : List Event}
    (h : ∀ call ∈ callsOf events, call.request.step ≠ .emptyCart) :
    ∀ event ∈ events, event.emptied? = none := by
  intro event hevent
  match event with
  | .asked ⟨.emptyCart user, .ok _⟩ =>
      exact absurd rfl (h _ (List.mem_filterMap.mpr ⟨_, hevent, rfl⟩))
  | .asked ⟨.emptyCart user, .error _⟩ => rfl
  | .asked ⟨.getCart _, _⟩ | .asked ⟨.getProduct _, _⟩ | .asked ⟨.getQuote .., _⟩ => rfl
  | .asked ⟨.convert .., _⟩ | .asked ⟨.charge .., _⟩ | .asked ⟨.shipOrder .., _⟩ => rfl
  | .asked ⟨.confirm _, _⟩ | .consulted _ | .noted _ => rfl

/-- No cart is emptied by a call that fails. -/
theorem emptied?_error (request : Request) (failure : CallFailure) :
    (Event.asked ⟨request, .error failure⟩).emptied? = none := by
  cases request <;> rfl

/-- The carts when something has happened. -/
def Carts.undergo (c : Carts) : Happening → Carts
  | .event event =>
      match event.emptied? with
      | some user => c.clear user
      | none => c
  | .added user line => c.add user line

/-- Where a cart is asked to be emptied the carts change as the answer says, and nothing else that
is asked changes them. -/
theorem Collaborators.carts_answer (c : Collaborators) (h : c.scripted.emptyCart = none)
    (request : Request) (isScripted : Bool) :
    (c.answer request isScripted).2.carts = c.carts.undergo
        (.event (.asked ⟨request,
          (request.accept (c.answer request isScripted).1).mapError .transport⟩)) ∧
      (c.answer request isScripted).2.scripted = c.scripted := by
  cases request with
  | emptyCart user =>
      have hanswer : c.scripted.answer? (.emptyCart user) = none := h
      unfold answer
      rw [hanswer, ite_self]
      unfold serviceAnswer Carts.emptyCart
      dsimp only
      split <;> exact ⟨rfl, rfl⟩
  | getCart | getProduct | getQuote | convert | shipOrder =>
      unfold answer
      split <;> exact ⟨rfl, rfl⟩
  | charge amount card diverted =>
      unfold answer serviceAnswer charge
      dsimp only
      split
      · exact ⟨rfl, rfl⟩
      · split <;> exact ⟨rfl, rfl⟩
  | confirm confirmation =>
      unfold answer serviceAnswer confirm
      dsimp only
      split
      · exact ⟨rfl, rfl⟩
      · split <;> exact ⟨rfl, rfl⟩

/-- The cart of a user when something has happened to it. -/
def linesAfter (user : UserId) (lines : List CartLine) : Happening → List CartLine
  | .event event => if event.emptied? = some user then [] else lines
  | .added other line => if other = user then Carts.addLine line lines else lines

/-- What happens to the carts happens to the cart of each user. -/
theorem lines_undergo (c : Carts) (happening : Happening) (user : UserId) :
    (c.undergo happening).lines user = linesAfter user (c.lines user) happening := by
  match happening with
  | .event event =>
      unfold Carts.undergo linesAfter
      dsimp only
      cases event.emptied? with
      | none => rfl
      | some other =>
          refine (c.lines_clear other user).trans ?_
          simp only [Option.some.injEq]
  | .added other line => exact c.lines_add other user line

/-- The cart of each user comes to what happens to it. -/
theorem lines_foldl_undergo (c : Carts) (happenings : List Happening) (user : UserId) :
    (happenings.foldl Carts.undergo c).lines user =
      happenings.foldl (linesAfter user) (c.lines user) := by
  induction happenings generalizing c with
  | nil => rfl
  | cons happening rest ih =>
      rw [List.foldl_cons, List.foldl_cons, ih, lines_undergo]

/-- A cart that is not emptied has all that is put into it. -/
theorem foldl_linesAfter {user : UserId} {happenings : List Happening}
    (h : ∀ event ∈ eventsOf happenings, event.emptied? ≠ some user) (lines : List CartLine) :
    happenings.foldl (linesAfter user) lines =
      Carts.filled lines (additionsTo user happenings) := by
  induction happenings generalizing lines with
  | nil => rfl
  | cons happening rest ih =>
      match happening with
      | .event event =>
          obtain ⟨hevent, hrest⟩ := List.forall_mem_cons.mp h
          rw [List.foldl_cons, linesAfter, if_neg hevent]
          exact ih hrest lines
      | .added other line =>
          rw [List.foldl_cons, linesAfter]
          by_cases hsame : other = user
          · have hadditions : additionsTo user (.added other line :: rest) =
                line :: additionsTo user rest := by
              unfold additionsTo
              rw [List.filterMap_cons, Happening.addition?, if_pos hsame]
            rw [if_pos hsame, hadditions]
            exact ih h _
          · have hadditions : additionsTo user (.added other line :: rest) =
                additionsTo user rest := by
              unfold additionsTo
              rw [List.filterMap_cons, Happening.addition?, if_neg hsame]
            rw [if_neg hsame, hadditions]
            exact ih h _

/-- Where no cart is emptied each has all that is put into it. -/
theorem foldl_linesAfter_of_none {happenings : List Happening}
    (h : ∀ event ∈ eventsOf happenings, event.emptied? = none) (user : UserId)
    (lines : List CartLine) :
    happenings.foldl (linesAfter user) lines =
      Carts.filled lines (additionsTo user happenings) :=
  foldl_linesAfter (fun event hevent ↦ by rw [h event hevent]; exact nofun) lines

/-- A list can be cut at an event that happens. -/
theorem exists_cut {happenings : List Happening} {first rest : List Event} {event : Event}
    (h : eventsOf happenings = first ++ event :: rest) :
    ∃ before after, happenings = before ++ .event event :: after ∧ eventsOf before = first ∧
      eventsOf after = rest := by
  obtain ⟨before, tail, rfl, hbefore, htail⟩ := List.filterMap_eq_append_iff.mp h
  obtain ⟨silent, happening, after, rfl, hsilent, hhappening, hafter⟩ :=
    List.filterMap_eq_cons_iff.mp htail
  cases happening with
  | added => cases hhappening
  | event =>
      cases hhappening
      refine ⟨before ++ silent, after, by simp, ?_, hafter⟩
      unfold eventsOf
      rw [List.filterMap_append, hbefore, List.filterMap_eq_nil_iff.mpr hsilent, List.append_nil]

/-- A placed order reads the cart before anything else is asked, and empties it after everything
else. -/
theorem Checkout.exists_toEnd_cart {request : ValidRequest} (plan : Plan request) (id : OrderId)
    (total : Money) (diverted : Bool) (transaction tracking : String)
    (answer : Except CallFailure Unit) :
    ∃ between later,
      toEnd plan id total diverted transaction tracking answer =
        [.noted (.attribute "app.order.id" (.text id.text))] ++
          .asked ⟨.getCart request.user, .ok plan.cart⟩ ::
            (between ++ .asked ⟨.emptyCart request.user, answer⟩ :: later) ∧
      (∀ event ∈ between, event.emptied? = none) ∧ ∀ event ∈ later, event.emptied? = none := by
  have hclearing : clearing request.user answer =
      .asked ⟨.emptyCart request.user, answer⟩ :: (clearing request.user answer).tail := by
    cases answer <;> rfl
  have hsaid : callsOf ((toShipment plan id total diverted transaction (.ok tracking)).drop 2) =
      plan.inquiries ++ [⟨.charge total request.card diverted, .ok transaction⟩,
        ⟨.shipOrder request.address plan.cart.lines, .ok tracking⟩] := by
    have hcalls := callsOf_toShipment plan id total diverted transaction (.ok tracking)
    exact (List.cons.inj hcalls).2
  refine ⟨(toShipment plan id total diverted transaction (.ok tracking)).drop 2 ++
      [.noted (.event "shipped" [("app.shipping.tracking.id", .text tracking)]),
        .noted (.progress id .charged .shipped)],
    (clearing request.user answer).tail ++ .noted (.progress id .shipped .cartCleared) ::
      (completing (plan.order id total tracking) request.email ++
        [.noted (.progress id .cartCleared .completed)]), ?_, ?_, ?_⟩
  · unfold toEnd
    rw [hclearing]
    simp only [List.append_assoc, List.cons_append, List.nil_append]
    rfl
  · refine emptied?_eq_none fun call hcall ↦ ?_
    rw [callsOf_append, hsaid, List.append_assoc] at hcall
    rcases List.mem_append.mp hcall with hcall | hcall
    · exact Request.step_ne_of_isInquiry (by decide)
        (Plan.isInquiry_of_mem_pricing (List.mem_cons_of_mem _ hcall))
    · simp only [callsOf_noted, callsOf_nil, List.append_nil, List.mem_cons, List.not_mem_nil,
        or_false] at hcall
      rcases hcall with rfl | rfl <;> exact nofun
  · refine emptied?_eq_none ?_
    cases answer <;> simp [clearing, completing]

namespace Shop

/-- Somebody puts a line into the cart of a user. -/
def addToCart (shop : Shop) (user : UserId) (line : CartLine) : Shop :=
  { shop with
    collaborators :=
      { shop.collaborators with carts := shop.collaborators.carts.add user line } }

/-- `Awaits moment shop meanwhile waiting` says that a shop waits up to a moment, and that lines are
put into carts in the meantime. -/
inductive Awaits (moment : Nat) : Shop → List Happening → Shop → Prop where
  | elapsed {shop : Shop} : Awaits moment shop [] (shop.waitUntil moment)
  | added {shop : Shop} {user : UserId} {line : CartLine} {meanwhile : List Happening}
      {waiting : Shop} (pause : Nat) : pause ≤ moment →
      Awaits moment ((shop.waitUntil pause).addToCart user line) meanwhile waiting →
      Awaits moment shop (.added user line :: meanwhile) waiting

/-- `Amid caller span shop happenings last final` says that a conversation on behalf of the caller
goes on in the shop while others put lines into carts, between the calls and while a call waits.
What happens is listed in order, each call at the moment at which it is answered. -/
inductive Amid (caller : Caller) : Span → Shop → List Happening → Span → Shop → Prop where
  | done {span shop} : Amid caller span shop [] span shop
  | asked {span shop request meanwhile waiting answer next happenings last final} :
      Awaits (shop.send caller request).1.time (shop.send caller request).2 meanwhile waiting →
      waiting.settle request (shop.send caller request).1 = (answer, next) →
      Amid caller span next happenings last final →
      Amid caller span shop (meanwhile ++ .event (.asked ⟨request, answer⟩) :: happenings) last
        final
  | consulted {span shop happenings last final} :
      Amid caller span shop happenings last final →
      Amid caller span shop (.event (.consulted shop.faults.divert) :: happenings) last final
  | noted {span shop n happenings last final} :
      Amid caller (shop.note caller span n).1 (shop.note caller span n).2 happenings last final →
      Amid caller span shop (.event (.noted n) :: happenings) last final
  | added {span shop user line happenings last final} :
      Amid caller span (shop.addToCart user line) happenings last final →
      Amid caller span shop (.added user line :: happenings) last final

variable {caller : Caller} {shop waiting final : Shop} {span last : Span}

/-- The service of the carts answers for itself. -/
structure KeepsCarts (shop : Shop) : Prop where
  reads : shop.collaborators.scripted.getCart = none
  empties : shop.collaborators.scripted.emptyCart = none

/-- The service of the carts goes on to answer for itself where no script is set. -/
theorem KeepsCarts.of_scripted_eq (h : shop.KeepsCarts)
    (heq : final.collaborators.scripted = shop.collaborators.scripted) : final.KeepsCarts :=
  ⟨heq ▸ h.reads, heq ▸ h.empties⟩

/-- In a wait carts are filled, and the background changes nothing about them. -/
theorem Awaits.carts_eq {moment : Nat} {meanwhile : List Happening}
    (h : Awaits moment shop meanwhile waiting) :
    waiting.collaborators.carts = meanwhile.foldl Carts.undergo shop.collaborators.carts ∧
      waiting.collaborators.scripted = shop.collaborators.scripted ∧
      eventsOf meanwhile = [] := by
  have hpasses : ∀ (shop : Shop) (moment : Nat),
      (shop.waitUntil moment).collaborators.carts = shop.collaborators.carts ∧
      (shop.waitUntil moment).collaborators.scripted = shop.collaborators.scripted := by
    intro shop moment
    have hstores := (shop.waitUntil_passes moment).stores_eq
    exact ⟨(congrArg Collaborators.carts hstores :), (congrArg Collaborators.scripted hstores :)⟩
  induction h with
  | @elapsed shop => exact ⟨(hpasses shop moment).1, (hpasses shop moment).2, rfl⟩
  | @added shop user line _ _ pause _ _ ih =>
      obtain ⟨hcarts, hscripted⟩ := hpasses shop pause
      refine ⟨ih.1.trans ?_, ih.2.1.trans hscripted, ih.2.2⟩
      rw [List.foldl_cons, ← hcarts]
      rfl

/-- The end of a call changes the carts as its answer says. -/
theorem carts_settle (h : shop.KeepsCarts) (request : Request) (sent : Sent) :
    (shop.settle request sent).2.collaborators.carts = shop.collaborators.carts.undergo
        (.event (.asked ⟨request, (shop.settle request sent).1⟩)) ∧
      (shop.settle request sent).2.collaborators.scripted = shop.collaborators.scripted := by
  obtain ⟨span, hsettle⟩ := shop.exists_settle_eq request sent
  rw [hsettle]
  unfold answerUnless
  cases sent.interruption with
  | some reason =>
      refine ⟨?_, rfl⟩
      unfold Carts.undergo
      dsimp only
      rw [emptied?_error]
      rfl
  | none => exact shop.collaborators.carts_answer h.empties request sent.isScripted

/-- A cart that is accepted has the lines that are stored. -/
theorem lines_of_settle (h : shop.KeepsCarts) {user : UserId} {sent : Sent} {cart : Cart}
    {next : Shop} (hsettle : shop.settle (.getCart user) sent = (.ok cart, next)) :
    cart.lines = shop.collaborators.carts.lines user := by
  obtain ⟨span, heq⟩ := shop.exists_settle_eq (.getCart user) sent
  rw [heq] at hsettle
  have hanswer : (shop.answerUnless (.getCart user) sent).1 = .ok cart := congrArg Prod.fst hsettle
  unfold answerUnless at hanswer
  cases hinterruption : sent.interruption with
  | some reason =>
      rw [hinterruption] at hanswer
      cases hanswer
  | none =>
      rw [hinterruption] at hanswer
      have hscript : shop.collaborators.scripted.answer? (.getCart user) = none := h.reads
      unfold answer Collaborators.answer at hanswer
      rw [hscript, ite_self] at hanswer
      exact lines_of_read (eq_ok_of_mapError hanswer)

/-- A call in whose wait carts are filled changes the carts as its answer says. -/
theorem carts_asked (hkeeps : shop.KeepsCarts) {request : Request} {meanwhile : List Happening}
    {answer : Except CallFailure request.Accepted} {next : Shop}
    (hwait :
      Awaits (shop.send caller request).1.time (shop.send caller request).2 meanwhile waiting)
    (hsettle : waiting.settle request (shop.send caller request).1 = (answer, next)) :
    waiting.collaborators.carts = meanwhile.foldl Carts.undergo shop.collaborators.carts ∧
      waiting.KeepsCarts ∧
      next.collaborators.carts =
        waiting.collaborators.carts.undergo (.event (.asked ⟨request, answer⟩)) ∧
      next.KeepsCarts := by
  have hsent := (shop.send_serves caller request 0).stores_eq
  have hcarts : (shop.send caller request).2.collaborators.carts = shop.collaborators.carts :=
    (congrArg Collaborators.carts hsent :)
  have hscripted :
      (shop.send caller request).2.collaborators.scripted = shop.collaborators.scripted :=
    (congrArg Collaborators.scripted hsent :)
  have hwaiting : waiting.KeepsCarts :=
    hkeeps.of_scripted_eq (hwait.carts_eq.2.1.trans hscripted)
  have hsettled := carts_settle hwaiting request (shop.send caller request).1
  rw [hsettle] at hsettled
  exact ⟨hcarts ▸ hwait.carts_eq.1, hwaiting, hsettled.1, hwaiting.of_scripted_eq hsettled.2⟩

/-- The carts come to what happens to them. -/
theorem Amid.carts_eq {happenings : List Happening} (hkeeps : shop.KeepsCarts)
    (h : Amid caller span shop happenings last final) :
    final.collaborators.carts = happenings.foldl Carts.undergo shop.collaborators.carts := by
  induction h with
  | done => rfl
  | asked hwait hsettle _ ih =>
      obtain ⟨hwaiting, -, hnext, hstill⟩ := carts_asked hkeeps hwait hsettle
      rw [List.foldl_append, List.foldl_cons, ← hwaiting, ← hnext]
      exact ih hstill
  | consulted _ ih => exact ih hkeeps
  | @noted span shop n _ _ _ _ ih =>
      obtain ⟨-, hcollaborators, -⟩ := shop.note_keeps caller span n
      rw [hcollaborators] at ih
      exact ih (hkeeps.of_scripted_eq (congrArg Collaborators.scripted hcollaborators))
  | added _ ih => exact ih (hkeeps.of_scripted_eq rfl)

/-- The cart of each user comes to what happens to it during a conversation. -/
theorem Amid.lines_eq {happenings : List Happening} (hkeeps : shop.KeepsCarts)
    (h : Amid caller span shop happenings last final) (user : UserId) :
    final.collaborators.carts.lines user =
      happenings.foldl (linesAfter user) (shop.collaborators.carts.lines user) := by
  rw [h.carts_eq hkeeps]
  exact lines_foldl_undergo _ _ _

/-- What stands before an event in a list with one more event stands before that event or behind
it. -/
theorem append_event_cases {meanwhile before happenings rest : List Happening} {event other : Event}
    (hsilent : eventsOf meanwhile = [])
    (h : meanwhile ++ .event event :: happenings = before ++ .event other :: rest) :
    (before = meanwhile ∧ event = other ∧ happenings = rest) ∨
      ∃ more, before = meanwhile ++ .event event :: more ∧
        happenings = more ++ .event other :: rest := by
  rcases List.append_eq_append_iff.mp h with ⟨more, rfl, hmore⟩ | ⟨more, rfl, hmore⟩
  · cases more with
    | nil =>
        cases hmore
        exact .inl ⟨List.append_nil _, rfl, rfl⟩
    | cons head more =>
        cases hmore
        exact .inr ⟨more, rfl, rfl⟩
  · cases more with
    | nil =>
        cases hmore
        exact .inl ⟨(List.append_nil _).symm, rfl, rfl⟩
    | cons head more =>
        cases hmore
        unfold eventsOf at hsilent
        rw [List.filterMap_append] at hsilent
        exact absurd (List.append_eq_nil_iff.mp hsilent).2 nofun

/-- A cart that is read is the one of that moment. -/
theorem Amid.lines_of_cart {happenings : List Happening} (hkeeps : shop.KeepsCarts)
    (h : Amid caller span shop happenings last final) {before rest : List Happening}
    {user : UserId} {cart : Cart}
    (hread : happenings = before ++ .event (.asked ⟨.getCart user, .ok cart⟩) :: rest) :
    cart.lines =
      before.foldl (linesAfter user) (shop.collaborators.carts.lines user) := by
  rw [← lines_foldl_undergo]
  induction h generalizing before with
  | done => exact absurd hread.symm (List.append_ne_nil_of_right_ne_nil _ nofun)
  | asked hwait hsettle _ ih =>
      obtain ⟨hwaiting, hready, hnext, hstill⟩ := carts_asked hkeeps hwait hsettle
      rcases append_event_cases hwait.carts_eq.2.2 hread with ⟨rfl, hsame, -⟩ | ⟨more, rfl, hmore⟩
      · cases hsame
        rw [← hwaiting]
        exact lines_of_settle hready hsettle
      · rw [List.foldl_append, List.foldl_cons, ← hwaiting, ← hnext]
        exact ih hstill hmore
  | consulted _ ih =>
      cases before with
      | nil => cases hread
      | cons head before =>
          obtain ⟨rfl, hrest⟩ := List.cons.inj hread
          exact (ih hkeeps hrest :)
  | @noted span shop n _ _ _ _ ih =>
      obtain ⟨-, hcollaborators, -⟩ := shop.note_keeps caller span n
      rw [hcollaborators] at ih
      cases before with
      | nil => cases hread
      | cons head before =>
          obtain ⟨rfl, hrest⟩ := List.cons.inj hread
          have hnoted := congrArg Collaborators.scripted hcollaborators
          exact (ih (hkeeps.of_scripted_eq hnoted) hrest :)
  | added _ ih =>
      cases before with
      | nil => cases hread
      | cons head before =>
          obtain ⟨rfl, hrest⟩ := List.cons.inj hread
          exact (ih (hkeeps.of_scripted_eq rfl) hrest :)

/-- `shop.PlacesAmid caller request happenings result final` says that a shop places an order while
others put lines into carts, and that the result and the shop at the end are these. -/
def PlacesAmid (shop : Shop) (caller : Caller) (request : OrderRequest)
    (happenings : List Happening) (result : Except PlacementError Order) (final : Shop) : Prop :=
  (Checkout.placeOrder shop.nextOrder request).Plays (eventsOf happenings) result ∧
    ∃ last closing,
      Amid (caller.withParent (shop.openOrder caller request).1.context)
        (shop.openOrder caller request).1 (shop.openOrder caller request).2 happenings last
        closing ∧
      final = closing.closeOrder last result

/-- Without additions a conversation goes as it does when nobody else is there. -/
theorem amid_map_event_iff {events : List Event} :
    Amid caller span shop (events.map .event) last final ↔
      Hosts caller none span shop events last final := by
  constructor
  · intro h
    generalize hevents : events.map Happening.event = happenings at h
    induction h generalizing events with
    | done =>
        cases List.map_eq_nil_iff.mp hevents
        exact .done
    | @asked span shop request _ _ answer next _ _ _ hwait hsettle _ ih =>
        cases hwait with
        | elapsed =>
            obtain ⟨_, rest, rfl, ⟨⟩, hrest⟩ := List.map_eq_cons_iff.mp hevents
            refine .asked ?_ (ih hrest)
            unfold call
            dsimp only
            rw [waitOrAbandon_none_eq, if_pos rfl, hsettle]
        | added =>
            obtain ⟨_, _, _, hadded, -⟩ := List.map_eq_cons_iff.mp hevents
            cases hadded
    | consulted _ ih =>
        obtain ⟨_, rest, rfl, ⟨⟩, hrest⟩ := List.map_eq_cons_iff.mp hevents
        exact .consulted (ih hrest)
    | noted _ ih =>
        obtain ⟨_, rest, rfl, ⟨⟩, hrest⟩ := List.map_eq_cons_iff.mp hevents
        exact .noted (ih hrest)
    | added =>
        obtain ⟨_, _, _, hadded, -⟩ := List.map_eq_cons_iff.mp hevents
        cases hadded
  · intro h
    induction h with
    | done => exact .done
    | asked hcall _ ih =>
        unfold call at hcall
        dsimp only at hcall
        rw [waitOrAbandon_none_eq, if_pos rfl] at hcall
        cases hcall
        exact .asked .elapsed rfl ih
    | consulted _ ih => exact .consulted ih
    | noted _ ih => exact .noted ih

/-- Without additions an order is placed as it is when nobody else is there. -/
theorem place_eq_some_iff_placesAmid {request : OrderRequest}
    {result : Except PlacementError Order} :
    shop.place caller none request = (some result, final) ↔
      ∃ events : List Event, shop.PlacesAmid caller request (events.map .event) result final := by
  rw [place_eq_some_iff]
  refine exists_congr fun events ↦ ?_
  unfold Places PlacesAmid
  simp only [eventsOf_map_event, amid_map_event_iff]

/-- What happens in an order that is placed: the cart is read, and later it is emptied, and nothing
else touches it but those who fill it. -/
theorem PlacesAmid.exists_parts {request : OrderRequest} {happenings : List Happening}
    {order : Order} (h : shop.PlacesAmid caller request happenings (.ok order) final) :
    ∃ earlier cart between answer later,
      happenings = earlier ++ .event (.asked ⟨.getCart request.user, .ok cart⟩) ::
        (between ++ .event (.asked ⟨.emptyCart request.user, answer⟩) :: later) ∧
      order.lines.map PricedLine.line = cart.lines ∧
      (∀ event ∈ eventsOf earlier, event.emptied? = none) ∧
      (∀ event ∈ eventsOf between, event.emptied? = none) ∧
      ∀ event ∈ eventsOf later, event.emptied? = none := by
  have hconforms := Checkout.conforms h.1
  generalize hevents : eventsOf happenings = events at hconforms
  cases hconforms with
  | @placed valid total plan diverted transaction tracking answer hvalid =>
      obtain ⟨said, after, htoEnd, hsaid, hafter⟩ :=
        Checkout.exists_toEnd_cart plan shop.nextOrder total diverted transaction tracking answer
      rw [htoEnd] at hevents
      obtain ⟨earlier, tail, rfl, hearlier, htail⟩ := exists_cut hevents
      obtain ⟨between, later, rfl, hbetween, hlater⟩ := exists_cut htail
      rw [← (Checkout.parts_of_validate hvalid).1]
      refine ⟨earlier, plan.cart, between, answer, later, rfl, plan.map_line_pricedLines, ?_,
        hbetween ▸ hsaid, hlater ▸ hafter⟩
      rw [hearlier]
      exact List.forall_mem_singleton.mpr rfl

/-- What is in the carts after an order, given what was put into them before the cart was read,
then before it was emptied, and after that. -/
structure CartsFare (shop : Shop) (user : UserId) (order : Order)
    (earlier between later : List Happening) (answer : Except CallFailure Unit) (final : Shop) :
    Prop where
  /-- What is ordered is what was in the cart when it was read. -/
  ordered : order.lines.map PricedLine.line =
    Carts.filled (shop.collaborators.carts.lines user) (additionsTo user earlier)
  /-- If the cart is emptied, all that is in it goes, and if it is not, nothing goes. What is put
  into it later stays. -/
  stays : ∃ left,
    (∀ done, answer = .ok done → left = []) ∧
    (∀ failure, answer = .error failure →
      left = Carts.filled (order.lines.map PricedLine.line) (additionsTo user between)) ∧
    final.collaborators.carts.lines user = Carts.filled left (additionsTo user later) ∧
    ∀ product, Carts.quantityOf product (final.collaborators.carts.lines user) =
      Carts.quantityOf product left + Carts.quantityOf product (additionsTo user later)
  /-- Nothing is lost of what others have in their carts. -/
  others : ∀ other, other ≠ user →
    final.collaborators.carts.lines other =
      Carts.filled (shop.collaborators.carts.lines other)
        (additionsTo other (earlier ++ between ++ later))

/-- What is put into the cart of a user after the cart was emptied is in it when the order has been
placed, and so is everything if the cart was not emptied. The orders that are placed while nobody
puts anything anywhere are those that the shop places. -/
theorem additions_after_emptying_stay (hkeeps : shop.KeepsCarts)
    {request : OrderRequest} {happenings : List Happening} {order : Order}
    (h : shop.PlacesAmid caller request happenings (.ok order) final) :
    (∃ earlier cart between answer later,
      happenings = earlier ++ .event (.asked ⟨.getCart request.user, .ok cart⟩) ::
        (between ++ .event (.asked ⟨.emptyCart request.user, answer⟩) :: later) ∧
      shop.CartsFare request.user order earlier between later answer final) ∧
    ∀ result next, shop.place caller none request = (some result, next) ↔
      ∃ events : List Event, shop.PlacesAmid caller request (events.map .event) result next := by
  refine ⟨?_, fun _ _ ↦ place_eq_some_iff_placesAmid⟩
  obtain ⟨earlier, cart, between, answer, later, rfl, hcart, hearlier, hbetween, hlater⟩ :=
    h.exists_parts
  obtain ⟨-, last, closing, hamid, rfl⟩ := h
  have hopened : (shop.openOrder caller request).2.collaborators = shop.collaborators := rfl
  have hready : (shop.openOrder caller request).2.KeepsCarts := hkeeps.of_scripted_eq rfl
  have hread := hamid.lines_of_cart hready rfl
  have hlines := hamid.lines_eq hready
  rw [hopened] at hread hlines
  refine ⟨earlier, cart, between, answer, later, rfl, ?_, ?_, ?_⟩
  · rw [hcart, hread, foldl_linesAfter_of_none hearlier]
  · have hfinal : closing.collaborators.carts.lines request.user =
        Carts.filled
          (linesAfter request.user (Carts.filled cart.lines (additionsTo request.user between))
            (.event (.asked ⟨.emptyCart request.user, answer⟩)))
          (additionsTo request.user later) := by
      rw [hlines, List.foldl_append, ← hread, List.foldl_cons, List.foldl_append,
        foldl_linesAfter_of_none hbetween, List.foldl_cons, foldl_linesAfter_of_none hlater]
      rfl
    refine ⟨_, ?_, ?_, hfinal, fun product ↦ ?_⟩
    · rintro done rfl
      exact if_pos rfl
    · rintro failure rfl
      rw [hcart]
      rfl
    · rw [← Carts.quantityOf_filled]
      exact congrArg _ hfinal
  · intro other hother
    have hspared : ∀ event ∈ eventsOf (between ++
        .event (.asked ⟨.emptyCart request.user, answer⟩) :: later),
        event.emptied? ≠ some other := by
      unfold eventsOf
      rw [List.filterMap_append, List.forall_mem_append]
      refine ⟨fun event hevent ↦ ?_, List.forall_mem_cons.mpr ⟨?_, fun event hevent ↦ ?_⟩⟩
      · rw [hbetween event hevent]
        exact nofun
      · cases answer with
        | ok done => exact fun hsame ↦ hother (Option.some.inj hsame).symm
        | error failure => exact nofun
      · rw [hlater event hevent]
        exact nofun
    have hfinal : closing.collaborators.carts.lines other =
        Carts.filled (shop.collaborators.carts.lines other)
          (additionsTo other (earlier ++ between ++ later)) := by
      rw [hlines, List.foldl_append, foldl_linesAfter_of_none hearlier, List.foldl_cons,
        show ∀ lines, linesAfter other lines
          (.event (.asked ⟨.getCart request.user, .ok cart⟩)) = lines from fun _ ↦ rfl,
        foldl_linesAfter hspared]
      simp [Carts.filled]
    exact hfinal

/-- Put lines into carts, one after the other. -/
def addAll (shop : Shop) (lines : List (UserId × CartLine)) : Shop :=
  lines.foldl (fun shop (user, line) ↦ shop.addToCart user line) shop

/-- Run a dialogue beside somebody who puts lines into carts when a request has been answered, and
tell what happens. -/
def converseBeside {α : Type} (caller : Caller) (busy : Request → List (UserId × CartLine)) :
    Dialogue α → Span → Shop → α × List Happening × Span × Shop
  | .done value, span, shop => (value, [], span, shop)
  | .ask request next, span, shop =>
      let (sent, shop) := shop.send caller request
      let (answer, shop) := (shop.waitUntil sent.time).settle request sent
      let (value, happenings, span, shop) :=
        converseBeside caller busy (next answer) span (shop.addAll (busy request))
      (value, .event (.asked ⟨request, answer⟩) :: (additions (busy request) ++ happenings), span,
        shop)
  | .consult next, span, shop =>
      let diverted := shop.faults.divert
      let (value, happenings, span, shop) := converseBeside caller busy (next diverted) span shop
      (value, .event (.consulted diverted) :: happenings, span, shop)
  | .note n next, span, shop =>
      let (span, shop) := shop.note caller span n
      let (value, happenings, span, shop) := converseBeside caller busy next span shop
      (value, .event (.noted n) :: happenings, span, shop)

/-- Place an order beside somebody who puts lines into carts when a request has been answered. -/
def placeBeside (shop : Shop) (caller : Caller) (busy : Request → List (UserId × CartLine))
    (request : OrderRequest) : Except PlacementError Order × List Happening × Shop :=
  let (span, opened) := shop.openOrder caller request
  let (result, happenings, span, closing) :=
    converseBeside (caller.withParent span.context) busy
      (Checkout.placeOrder shop.nextOrder request).run span opened
  (result, happenings, closing.closeOrder span result)

/-- Lines may be put into carts one after the other. -/
theorem Amid.addAll {lines : List (UserId × CartLine)} {happenings : List Happening}
    (h : Amid caller span (shop.addAll lines) happenings last final) :
    Amid caller span shop (additions lines ++ happenings) last final := by
  induction lines generalizing shop with
  | nil => exact h
  | cons line rest ih => exact .added (ih h)

/-- Such a run is a conversation amid additions. -/
theorem converseBeside_amid {α : Type} (caller : Caller) (busy : Request → List (UserId × CartLine))
    (d : Dialogue α) (span : Span) (shop : Shop) :
    let run := converseBeside caller busy d span shop
    d.Plays (eventsOf run.2.1) run.1 ∧ Amid caller span shop run.2.1 run.2.2.1 run.2.2.2 := by
  induction d generalizing span shop with
  | done result => exact ⟨.done _, .done⟩
  | ask request next ih =>
      obtain ⟨hplays, hamid⟩ := ih _ span _
      rw [← eventsOf_additions_append (busy request)] at hplays
      exact ⟨.asked (settle_answers _ _ _) hplays, .asked .elapsed rfl hamid.addAll⟩
  | consult next ih => exact ⟨.consulted (ih _ span shop).1, .consulted (ih _ span shop).2⟩
  | note n next ih => exact ⟨.noted (ih _ _).1, .noted (ih _ _).2⟩

/-- An order that is placed beside somebody is placed while others put lines into carts. -/
theorem placeBeside_placesAmid (shop : Shop) (caller : Caller)
    (busy : Request → List (UserId × CartLine)) (request : OrderRequest) :
    shop.PlacesAmid caller request (shop.placeBeside caller busy request).2.1
      (shop.placeBeside caller busy request).1 (shop.placeBeside caller busy request).2.2 := by
  obtain ⟨hplays, hamid⟩ := converseBeside_amid
    (caller.withParent (shop.openOrder caller request).1.context) busy
    (Checkout.placeOrder shop.nextOrder request).run (shop.openOrder caller request).1
    (shop.openOrder caller request).2
  exact ⟨hplays, _, _, hamid, rfl⟩

/-- Somebody who puts a watch into the cart when it has been read, and mugs when it has been
emptied. -/
def demoBusy : Request → List (UserId × CartLine)
  | .getCart user => [(user, ⟨⟨"1YMWWN1N4O"⟩, 1⟩)]
  | .emptyCart user => [(user, ⟨⟨"6E92ZMYYFZ"⟩, 3⟩)]
  | _ => []

/-- The mugs are there when the order has been placed. -/
theorem demo_additions_after_emptying_stay :
    ∃ earlier cart between answer later order final,
      (Demo.start .standard 0 0).PlacesAmid .background demoRequest
        (earlier ++ .event (.asked ⟨.getCart Demo.customer, .ok cart⟩) ::
          (between ++ .event (.asked ⟨.emptyCart Demo.customer, answer⟩) :: later))
        (.ok order) final ∧
      (Demo.start .standard 0 0).CartsFare Demo.customer order earlier between later answer final ∧
      final.collaborators.carts.lines Demo.customer = [⟨⟨"6E92ZMYYFZ"⟩, 3⟩] := by
  have hplaces := (Demo.start .standard 0 0).placeBeside_placesAmid .background demoBusy demoRequest
  have hplaced : ((Demo.start .standard 0 0).placeBeside .background demoBusy demoRequest).1.isOk =
      true := rfl
  have hlines : ((Demo.start .standard 0 0).placeBeside .background demoBusy
      demoRequest).2.2.collaborators.carts.lines Demo.customer = [⟨⟨"6E92ZMYYFZ"⟩, 3⟩] := rfl
  generalize (Demo.start .standard 0 0).placeBeside .background demoBusy demoRequest = run
    at hplaces hplaced hlines
  obtain ⟨_ | order, happenings, final⟩ := run
  · cases hplaced
  · obtain ⟨⟨earlier, cart, between, answer, later, rfl, hfare⟩, -⟩ :=
      additions_after_emptying_stay ⟨rfl, rfl⟩ hplaces
    exact ⟨earlier, cart, between, answer, later, order, final, hplaces, hfare, hlines⟩

/-- The watch is not, though it was put into the cart when it had been read. -/
theorem addition_after_reading_is_lost : ∃ note cart later order final,
    (Demo.start .standard 0 0).PlacesAmid .background demoRequest
      (.event note :: .event (.asked ⟨.getCart Demo.customer, .ok cart⟩) ::
        .added Demo.customer ⟨⟨"1YMWWN1N4O"⟩, 1⟩ :: later) (.ok order) final ∧
      Carts.quantityOf ⟨"1YMWWN1N4O"⟩ (final.collaborators.carts.lines Demo.customer) = 0 := by
  have hplaces := (Demo.start .standard 0 0).placeBeside_placesAmid .background demoBusy demoRequest
  have hplaced : ((Demo.start .standard 0 0).placeBeside .background demoBusy demoRequest).1.isOk =
      true := rfl
  have hlost : Carts.quantityOf ⟨"1YMWWN1N4O"⟩ (((Demo.start .standard 0 0).placeBeside .background
      demoBusy demoRequest).2.2.collaborators.carts.lines Demo.customer) = 0 := rfl
  have hread : ∃ note cart later,
      ((Demo.start .standard 0 0).placeBeside .background demoBusy demoRequest).2.1 =
        .event note :: .event (.asked ⟨.getCart Demo.customer, .ok cart⟩) ::
          .added Demo.customer ⟨⟨"1YMWWN1N4O"⟩, 1⟩ :: later := ⟨_, _, _, rfl⟩
  generalize (Demo.start .standard 0 0).placeBeside .background demoBusy demoRequest = run
    at hplaces hplaced hlost hread
  obtain ⟨_ | order, happenings, final⟩ := run
  · cases hplaced
  · obtain ⟨note, cart, later, rfl⟩ := hread
    exact ⟨note, cart, later, order, final, hplaces, hlost⟩

end Shop

end Storefront
