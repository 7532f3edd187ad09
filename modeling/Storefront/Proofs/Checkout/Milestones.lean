import Storefront.Proofs.Checkout.Completion

/-!
# The milestones of a checkout

What a checkout reports while it goes on, against what it does. The stages that it passes are an
initial part of the chain of stages, and every call is made after just those passages that its step
presupposes, with one mark on the span of the order for each passage beyond the first, `InStep`. So
how far the report has got is told by the result, `Conforms.reports`, and where a checkout is left
waiting for a call, by the step of the call, `Conforms.shows_before`.
-/

namespace Storefront

namespace Stage

/-- The first so many passages from a stage on, each from a stage to the one after it. -/
def passages : Nat → Stage → List (Stage × Stage)
  | 0, _ => []
  | n + 1, stage =>
      match stage.next? with
      | some next => (stage, next) :: passages n next
      | none => []

/-- There are not more passages than are asked for. -/
theorem length_passages_le (n : Nat) (stage : Stage) : (passages n stage).length ≤ n := by
  induction n generalizing stage with
  | zero => exact Nat.le_refl 0
  | succ n ih =>
      unfold passages
      split
      · exact Nat.succ_le_succ (ih _)
      · exact Nat.zero_le _

/-- Fewer passages are an initial part of more. -/
theorem take_passages {k n : Nat} (h : k ≤ n) (stage : Stage) :
    (passages n stage).take k = passages k stage := by
  induction n generalizing k stage with
  | zero =>
      obtain rfl : k = 0 := by omega
      rfl
  | succ n ih =>
      cases k with
      | zero => rfl
      | succ k =>
          unfold passages
          split
          · rw [List.take_succ_cons, ih (by omega)]
          · rfl

/-- The whole chain has six passages and ends with completion. -/
example : (passages 6 .validating).map Prod.snd =
    [.cartFetched, .pricedAndQuoted, .charged, .shipped, .cartCleared, .completed] := rfl

end Stage

/-- How many passages have been made when a step is under way. -/
def Step.passed : Step → Nat
  | .validate | .getCart => 0
  | .getProduct | .quoteShipping | .convertCurrency | .prepareTotal => 1
  | .chargePayment => 2
  | .shipOrder => 3
  | .emptyCart => 4
  | .sendConfirmation | .publishEvent => 5

/-- Inquiries are made before the second passage. -/
theorem Request.passed_of_isInquiry {request : Request} (h : request.isInquiry = true) :
    request.step.passed ≤ 1 := by
  cases request with
  | getCart => exact Nat.zero_le 1
  | getProduct | getQuote | convert => exact Nat.le_refl 1
  | charge | shipOrder | emptyCart | confirm => cases h

/-- All calls of an order are made before the fifth passage. -/
theorem Request.passed_le {request : Request} (h : request.step ≠ .sendConfirmation) :
    request.step.passed ≤ 4 := by
  cases request with
  | confirm => exact absurd rfl h
  | getCart | getProduct | getQuote | convert | charge | shipOrder | emptyCart =>
      simp [step, Step.passed]

/-- What the log says of a passage. -/
def progressText : String := "checkout state changed"

/-- What the log says of a charge without a shipment. -/
def inVainText : String := "order charged but not shipped; no refund issued"

/-- The texts that only the checkout of an order writes. -/
def orderTexts : List String := [progressText, inVainText]

/-- The line of the log about a passage. -/
def progressLine (id : OrderId) (passage : Stage × Stage) : LogLine :=
  ⟨.debug, progressText,
    [("order_id", id.text), ("from", passage.1.name), ("to", passage.2.name)]⟩

/-- The marks that a span has for the passages beyond the first. -/
def milestones : List String := ["prepared", "charged", "shipped"]

namespace Note

/-- The line that a note writes to the log. -/
def line? : Note → Option LogLine
  | .attribute .. | .event .. => none
  | .line written => some written
  | .progress id source target => some (progressLine id (source, target))
  | .setback error => some ⟨.warn, "best-effort step failed",
      [("step", error.step.name), ("error", error.message)]⟩
  | .completed order email =>
      if email = "" then
        some ⟨.info, "no email on request; skipping confirmation", [("order_id", order.id.text)]⟩
      else none

/-- The name of what a note adds to the events of a span. -/
def mark? : Note → Option String
  | .event name _ => some name
  | .setback error => some (error.step.name ++ " failed")
  | .attribute .. | .line _ | .progress .. | .completed .. => none

end Note

namespace Event

/-- The line of a text that an event writes to the log. -/
def says? (text : String) : Event → Option LogLine
  | noted n => n.line?.filter fun line ↦ line.message = text
  | asked _ | consulted _ => none

/-- The name of what an event of a conversation adds to the events of a span. -/
def mark? : Event → Option String
  | noted n => n.mark?
  | asked _ | consulted _ => none

section

variable (text : String)

@[simp] theorem says?_asked (call : Call) : (asked call).says? text = none := rfl

@[simp] theorem says?_consulted (diverted : Bool) : (consulted diverted).says? text = none := rfl

@[simp] theorem says?_attribute (key : String) (value : AttributeValue) :
    (noted (.attribute key value)).says? text = none := rfl

@[simp] theorem says?_event (name : String) (attributes : Attributes) :
    (noted (.event name attributes)).says? text = none := rfl

@[simp] theorem says?_line (line : LogLine) :
    (noted (.line line)).says? text = if line.message = text then some line else none := by
  simp [says?, Note.line?, Option.filter]

@[simp] theorem says?_progress (id : OrderId) (source target : Stage) :
    (noted (.progress id source target)).says? text =
      if progressText = text then some (progressLine id (source, target)) else none := by
  simp [says?, Note.line?, Option.filter, progressLine]

variable {text}

/-- A text is one of the two. -/
theorem eq_of_mem_orderTexts (h : text ∈ orderTexts) : text = progressText ∨ text = inVainText := by
  simpa [orderTexts] using h

/-- A failure that is noted has a text of its own. -/
theorem says?_setback (h : text ∈ orderTexts) (error : BestEffortError) :
    (noted (.setback error)).says? text = none := by
  rcases eq_of_mem_orderTexts h with rfl | rfl <;>
    simp [says?, Note.line?, Option.filter, progressText, inVainText]

/-- An order that nobody is told of has a text of its own. -/
theorem says?_completed (h : text ∈ orderTexts) (order : Order) (email : String) :
    (noted (.completed order email)).says? text = none := by
  rcases eq_of_mem_orderTexts h with rfl | rfl <;> by_cases hemail : email = "" <;>
    simp [says?, Note.line?, Option.filter, progressText, inVainText, hemail]

end

@[simp] theorem mark?_asked (call : Call) : (asked call).mark? = none := rfl

@[simp] theorem mark?_consulted (diverted : Bool) : (consulted diverted).mark? = none := rfl

@[simp] theorem mark?_event (name : String) (attributes : Attributes) :
    (noted (.event name attributes)).mark? = some name := rfl

@[simp] theorem mark?_setback (error : BestEffortError) :
    (noted (.setback error)).mark? = some (error.step.name ++ " failed") := rfl

@[simp] theorem mark?_attribute (key : String) (value : AttributeValue) :
    (noted (.attribute key value)).mark? = none := rfl

@[simp] theorem mark?_line (line : LogLine) : (noted (.line line)).mark? = none := rfl

@[simp] theorem mark?_progress (id : OrderId) (source target : Stage) :
    (noted (.progress id source target)).mark? = none := rfl

@[simp] theorem mark?_completed (order : Order) (email : String) :
    (noted (.completed order email)).mark? = none := rfl

end Event

/-- The lines of a text that a conversation writes to the log, in order. -/
def saying (text : String) (events : List Event) : List LogLine :=
  events.filterMap (Event.says? text)

/-- The marks that a conversation leaves on the span of the order, in order. -/
def marksOf (events : List Event) : List String :=
  events.filterMap Event.mark?

@[simp] theorem saying_nil (text : String) : saying text [] = [] := rfl

@[simp] theorem saying_cons (text : String) (event : Event) (events : List Event) :
    saying text (event :: events) = (event.says? text).toList ++ saying text events := by
  unfold saying
  rw [List.filterMap_cons]
  cases event.says? text <;> rfl

@[simp] theorem saying_append (text : String) (first rest : List Event) :
    saying text (first ++ rest) = saying text first ++ saying text rest :=
  List.filterMap_append

@[simp] theorem saying_map_asked (text : String) (calls : List Call) :
    saying text (calls.map .asked) = [] := by
  rw [saying, List.filterMap_map]
  exact List.filterMap_eq_nil_iff.mpr fun _ _ ↦ rfl

@[simp] theorem marksOf_nil : marksOf [] = [] := rfl

@[simp] theorem marksOf_cons (event : Event) (events : List Event) :
    marksOf (event :: events) = event.mark?.toList ++ marksOf events := by
  unfold marksOf
  rw [List.filterMap_cons]
  cases event.mark? <;> rfl

@[simp] theorem marksOf_append (first rest : List Event) :
    marksOf (first ++ rest) = marksOf first ++ marksOf rest :=
  List.filterMap_append

@[simp] theorem marksOf_map_asked (calls : List Call) : marksOf (calls.map .asked) = [] := by
  rw [marksOf, List.filterMap_map]
  exact List.filterMap_eq_nil_iff.mpr fun _ _ ↦ rfl

namespace Checkout

/-- `InStep passed marked events` says that each call of a conversation is made after as many
passages as its step presupposes and with a mark for each of them but the first, if so many have
been made before the conversation. -/
def InStep : Nat → Nat → List Event → Prop
  | _, _, [] => True
  | passed, marked, event :: rest =>
      (∀ call ∈ event.call?, passed = call.request.step.passed ∧ marked = passed - 1) ∧
        InStep (passed + (event.says? progressText).toList.length)
          (marked + event.mark?.toList.length) rest

/-- What follows is in step if what was reported before is counted. -/
theorem inStep_append {passed marked : Nat} {first rest : List Event} :
    InStep passed marked (first ++ rest) ↔ InStep passed marked first ∧
      InStep (passed + (saying progressText first).length) (marked + (marksOf first).length)
        rest := by
  induction first generalizing passed marked with
  | nil => simp [InStep]
  | cons event first ih =>
      simp only [List.cons_append, InStep, ih, saying_cons, marksOf_cons, List.length_append,
        and_assoc, Nat.add_assoc]

/-- Calls are in step if each of them is. -/
theorem inStep_map_asked {passed marked : Nat} {calls : List Call}
    (h : ∀ call ∈ calls, passed = call.request.step.passed ∧ marked = passed - 1) :
    InStep passed marked (calls.map .asked) := by
  induction calls with
  | nil => trivial
  | cons call rest ih =>
      obtain ⟨hcall, hrest⟩ := List.forall_mem_cons.mp h
      refine ⟨?_, ih hrest⟩
      rintro _ ⟨⟩
      exact hcall

/-- `Shows id events passed marks` says that a conversation about an order reports the first so many
passages, leaves these marks, says nothing of a charge in vain, and that its calls are in step. -/
structure Shows (id : OrderId) (events : List Event) (passed : Nat) (marks : List String) :
    Prop where
  progress : saying progressText events =
    (Stage.passages passed .validating).map (progressLine id)
  marksOf_eq : marksOf events = marks
  calm : saying inVainText events = []
  inStep : InStep 0 0 events

namespace Shows

variable {id : OrderId} {first : List Event} {passed n : Nat} {marks : List String}

/-- Nothing is reported of an order that is not begun. -/
theorem nil (id : OrderId) : Shows id [] 0 [] :=
  ⟨rfl, rfl, rfl, trivial⟩

/-- What follows adds to the report. -/
theorem append (h : Shows id first passed marks) (rest : List Event)
    (hprogress : (Stage.passages passed .validating).map (progressLine id) ++
      saying progressText rest = (Stage.passages n .validating).map (progressLine id))
    (hcalm : saying inVainText rest = [])
    (hstep : InStep (Stage.passages passed .validating).length marks.length rest) :
    Shows id (first ++ rest) n (marks ++ marksOf rest) where
  progress := by rw [saying_append, h.progress, hprogress]
  marksOf_eq := by rw [marksOf_append, h.marksOf_eq]
  calm := by rw [saying_append, h.calm, hcalm, List.append_nil]
  inStep := by
    rw [inStep_append, h.progress, h.marksOf_eq, List.length_map, Nat.zero_add, Nat.zero_add]
    exact ⟨h.inStep, hstep⟩

/-- Before a call as much is reported as its step presupposes. -/
theorem before {call : Call} {rest : List Event}
    (h : Shows id (first ++ .asked call :: rest) passed marks) :
    call.request.step.passed ≤ passed ∧
      Shows id first call.request.step.passed (marks.take (call.request.step.passed - 1)) := by
  obtain ⟨hfirst, hasked, -⟩ := inStep_append.mp h.inStep
  obtain ⟨hpassed, hmarked⟩ := hasked call rfl
  rw [Nat.zero_add] at hpassed hmarked
  have hlines : saying progressText first <+:
      (Stage.passages passed .validating).map (progressLine id) := by
    rw [← h.progress, saying_append]
    exact List.prefix_append _ _
  have hmarks : marksOf first <+: marks := by
    rw [← h.marksOf_eq, marksOf_append]
    exact List.prefix_append _ _
  have hle : call.request.step.passed ≤ passed := by
    have hlength := hlines.length_le
    have hall := Stage.length_passages_le passed .validating
    rw [List.length_map] at hlength
    omega
  refine ⟨hle, ?_, ?_, ?_, hfirst⟩
  · rw [List.prefix_iff_eq_take.mp hlines, hpassed, ← List.map_take, Stage.take_passages hle]
  · rw [List.prefix_iff_eq_take.mp hmarks, hmarked, Nat.zero_add, hpassed]
  · have hcalm := h.calm
    rw [saying_append, List.append_eq_nil_iff] at hcalm
    exact hcalm.1

/-- Up to a call as much is reported as its step presupposes, whatever the answer. -/
theorem upTo {call : Call} {rest : List Event}
    (h : Shows id (first ++ .asked call :: rest) passed marks)
    (answer : Except CallFailure call.request.Accepted) :
    Shows id (first ++ [.asked ⟨call.request, answer⟩]) call.request.step.passed
      (marks.take (call.request.step.passed - 1)) := by
  obtain ⟨-, hprogress, hmarks, hcalm, hfirst⟩ := h.before
  refine ⟨by simpa using hprogress, by simpa using hmarks, by simpa using hcalm, ?_⟩
  obtain ⟨-, hasked, -⟩ := inStep_append.mp h.inStep
  refine inStep_append.mpr ⟨hfirst, ?_, trivial⟩
  rintro _ ⟨⟩
  exact hasked call rfl

/-- Where the marks begin with the milestones, those before a call are the milestones that its step
presupposes. -/
theorem before_milestones {call : Call} {rest : List Event}
    (h : Shows id (first ++ .asked call :: rest) passed (milestones.take (passed - 1) ++ marks))
    (hcall : call.request.step ≠ .sendConfirmation) :
    Shows id first call.request.step.passed
      (milestones.take (call.request.step.passed - 1)) := by
  obtain ⟨hle, hbefore⟩ := h.before
  have hbound := Request.passed_le hcall
  have hlength : (milestones.take (passed - 1)).length = min (passed - 1) 3 := List.length_take
  rw [List.take_append_of_le_length (by omega), List.take_take, Nat.min_eq_left (by omega)]
    at hbefore
  exact hbefore

end Shows

section

variable {request : ValidRequest} (plan : Plan request) (id : OrderId) (total : Money)
  (diverted : Bool)

/-- Everything between the cart and the charge is asked after the first passage. -/
theorem passed_of_mem_inquiries {call : Call} (h : call ∈ plan.inquiries) :
    call.request.step.passed = 1 := by
  have hconversion : ∀ {c : Conversion request.currency}, call ∈ c.calls →
      call.request.step.passed = 1 := by
    intro c hcall
    unfold Conversion.calls at hcall
    split at hcall
    · cases hcall
    · rw [List.mem_singleton.mp hcall]
      rfl
  unfold Plan.inquiries at h
  rcases List.mem_append.mp h with hlookup | h
  · obtain ⟨p, -, rfl⟩ := List.mem_map.mp hlookup
    rfl
  rcases List.mem_cons.mp h with rfl | h
  · rfl
  rcases List.mem_append.mp h with hline | hshipping
  · obtain ⟨p, -, hcall⟩ := List.mem_flatMap.mp hline
    exact hconversion hcall
  · exact hconversion hshipping

/-- Before the total is formed the first passage is reported. -/
theorem shows_opening : Shows id (plan.opening id) 1 [] := by
  have hinquiries : InStep 1 0 (plan.inquiries.map .asked) :=
    inStep_map_asked fun call hcall ↦ ⟨(passed_of_mem_inquiries plan hcall).symm, rfl⟩
  unfold Plan.opening
  refine ⟨?_, ?_, ?_, ?_⟩
  · simp [Stage.passages, Stage.next?]
  · simp
  · simp [progressText, inVainText]
  · simpa [InStep, Event.call?, Request.step, Step.passed] using hinquiries

/-- Up to the charge two passages are reported. -/
theorem shows_toCharge (answer : Except CallFailure String) :
    Shows id (toCharge plan id total diverted answer) 2 ["prepared"] := by
  have happend := (shows_opening plan id).append (n := 2)
    (plan.prepared :: .noted (.progress id .cartFetched .pricedAndQuoted) ::
      charging id total request.card diverted answer)
  unfold charging diverting at happend
  cases diverted <;> simpa [toCharge, charging, diverting, Plan.prepared, logged, Stage.passages,
    Stage.next?, progressText, inVainText, InStep, Event.call?, Request.step, Step.passed]
    using happend

/-- Up to the shipment three passages are reported. -/
theorem shows_toShipment (transaction : String) (answer : Except CallFailure String) :
    Shows id (toShipment plan id total diverted transaction answer) 3 ["prepared", "charged"] := by
  have happend := (shows_toCharge plan id total diverted (.ok transaction)).append (n := 3)
    (charged id total transaction ++ [.noted (.progress id .pricedAndQuoted .charged),
      .asked ⟨.shipOrder request.address plan.cart.lines, answer⟩])
  simpa [toShipment, charged, logged, Stage.passages, Stage.next?, progressText, inVainText,
    InStep, Event.call?, Request.step, Step.passed] using happend

/-- Up to the end all six passages are reported, and a mark tells of a cart that is not emptied. -/
theorem shows_toEnd (transaction tracking : String) (answer : Except CallFailure Unit) :
    Shows id (toEnd plan id total diverted transaction tracking answer) 6
      (milestones ++ if answer.isOk then [] else ["empty_cart failed"]) := by
  have hprogress : progressText ∈ orderTexts := .head _
  have hinVain : inVainText ∈ orderTexts := .tail _ (.head _)
  have happend := (shows_toShipment plan id total diverted transaction (.ok tracking)).append
    (n := 6) ([.noted (.event "shipped" [("app.shipping.tracking.id", .text tracking)]),
        .noted (.progress id .charged .shipped)] ++
      clearing request.user answer ++ .noted (.progress id .shipped .cartCleared) ::
        (completing (plan.order id total tracking) request.email ++
          [.noted (.progress id .cartCleared .completed)]))
  cases answer <;> simpa [toEnd, clearing, completing, milestones, Stage.passages, Stage.next?,
    Event.says?_setback hprogress, Event.says?_completed hprogress, Event.says?_setback hinVain,
    Event.says?_completed hinVain, show progressText ≠ inVainText by decide,
    InStep, Event.call?, Request.step, Step.passed, BestEffortError.step, Step.name,
    Except.isOk, Except.toBool] using happend

end

/-- The line of the log about a charge without a shipment. -/
def inVainLine (id : OrderId) (transaction : String) : LogLine :=
  ⟨.error, inVainText, [("order_id", id.text), ("transaction_id", transaction)]⟩

variable {id : OrderId} {request : OrderRequest} {events : List Event}

/-- Where an opening stops, as much is reported as the step of the error presupposes. -/
theorem shows_of_stopsAt {valid : ValidRequest} {plan : Plan valid} {error : PlacementError}
    (h : StopsAt (plan.opening id) events error) :
    Shows id events error.step.passed [] ∧ error.step.passed ≤ 1 := by
  obtain ⟨before, call, after, failure, hscript, rfl, hblame⟩ := h
  have hcall : call ∈ plan.pricing := by
    rw [← callsOf_opening plan id, hscript]
    simp
  have hopening := shows_opening plan id
  rw [hscript] at hopening
  rw [(Request.explains_of_blame? hblame).1]
  have hstopped := hopening.upTo (.error failure)
  rw [List.take_nil] at hstopped
  exact ⟨hstopped, Request.passed_of_isInquiry (Plan.isInquiry_of_mem_pricing hcall)⟩

/-- A cart that was to be emptied is left as it is. -/
def leavesCart (events : List Event) : Bool :=
  (callsOf events).any fun call ↦ call.request.step == .emptyCart && !call.succeeded

/-- The last call of an order that is placed tells whether the cart is left as it is. -/
theorem leavesCart_toEnd {valid : ValidRequest} (plan : Plan valid) (id : OrderId) (total : Money)
    (diverted : Bool) (transaction tracking : String) (answer : Except CallFailure Unit) :
    leavesCart (toEnd plan id total diverted transaction tracking answer) = !answer.isOk := by
  have hpricing : plan.pricing.any
      (fun call ↦ call.request.step == .emptyCart && !call.succeeded) = false := by
    rw [List.any_eq_false]
    intro call hcall
    rw [(Plan.of_mem_pricing hcall).2]
    simp
  rw [leavesCart, callsOf_toEnd, List.any_append, hpricing]
  cases answer <;> rfl

/-- A checkout that ends with an order has reported all passages, and a mark tells of a cart that is
not emptied. -/
theorem Conforms.shows {order : Order} (h : Conforms id request events (.ok order)) :
    Shows id events 6 (milestones ++ if leavesCart events then ["empty_cart failed"] else []) := by
  cases h with
  | @placed valid total plan diverted transaction tracking answer =>
      have hshows := shows_toEnd plan id total diverted transaction tracking answer
      rw [leavesCart_toEnd]
      cases answer <;> exact hshows

/-- `Reports id events error` says that a conversation that ends with an error has reported the
passages that the step of the error presupposes, with their marks, and a charge in vain exactly if
the order was not shipped. -/
structure Reports (id : OrderId) (events : List Event) (error : PlacementError) : Prop where
  progress : saying progressText events =
    (Stage.passages error.step.passed .validating).map (progressLine id)
  marksOf_eq : marksOf events = milestones.take (error.step.passed - 1)
  inVain : error.step = .shipOrder →
    ∃ transaction, saying inVainText events = [inVainLine id transaction]
  calm : error.step ≠ .shipOrder → saying inVainText events = []

/-- What shows as much as the step of an error presupposes reports it, if the order was not to be
shipped. -/
theorem Shows.reports {error : PlacementError} {marks : List String}
    (h : Shows id events error.step.passed marks)
    (hmarks : marks = milestones.take (error.step.passed - 1)) (hstep : error.step ≠ .shipOrder) :
    Reports id events error :=
  ⟨h.progress, h.marksOf_eq.trans hmarks, fun hship ↦ absurd hship hstep, fun _ ↦ h.calm⟩

/-- A checkout that fails has reported as much as the step at which it fails presupposes. -/
theorem Conforms.reports {error : PlacementError} (h : Conforms id request events (.error error)) :
    Reports id events error := by
  generalize hresult : (.error error : Except PlacementError Order) = result at h
  cases h with
  | refused =>
      cases hresult
      exact (Shows.nil id).reports rfl nofun
  | stopped plan hvalid hstops =>
      cases hresult
      obtain ⟨hshows, hpassed⟩ := shows_of_stopsAt hstops
      refine hshows.reports ?_ ?_
      · rw [show error.step.passed - 1 = 0 by omega, List.take_zero]
      · intro hship
        rw [hship] at hpassed
        exact absurd hpassed (by decide)
  | unpayable plan =>
      cases hresult
      exact (shows_opening plan id).reports rfl nofun
  | @uncharged valid total error plan diverted failure hvalid htotal hblame =>
      cases hresult
      have hstep : error.step = .chargePayment := (Request.explains_of_blame? hblame).1
      have hpassed : error.step.passed = 2 := by
        rw [hstep]
        rfl
      have hshows := shows_toCharge plan id total diverted (.error failure)
      rw [← hpassed] at hshows
      refine hshows.reports ?_ ?_
      · rw [hpassed]
        rfl
      · rw [hstep]
        nofun
  | @unshipped valid total error plan diverted transaction failure hvalid htotal hblame =>
      cases hresult
      have hstep : error.step = .shipOrder := (Request.explains_of_blame? hblame).1
      obtain ⟨hprogress, hmarks, hcalm, -⟩ :=
        shows_toShipment plan id total diverted transaction (.error failure)
      refine ⟨?_, ?_, fun _ ↦ ⟨transaction, ?_⟩, fun hother ↦ absurd hstep hother⟩
      · rw [saying_append, hprogress, hstep]
        simp [chargedInVain, logged, progressText, Step.passed]
      · rw [marksOf_append, hmarks, hstep]
        rfl
      · rw [saying_append, hcalm]
        simp [chargedInVain, logged, inVainText, inVainLine]
  | placed => cases hresult

/-- Where a checkout makes a call, it has reported as much as the step of the call presupposes. -/
theorem Conforms.shows_before {call : Call} {rest : List Event}
    {result : Except PlacementError Order}
    (h : Conforms id request (events ++ .asked call :: rest) result) :
    Shows id events call.request.step.passed
      (milestones.take (call.request.step.passed - 1)) := by
  have hcall : call.request.step ≠ .sendConfirmation :=
    h.isOrderly _ (List.mem_append_right _ (.head _))
  generalize hall : events ++ .asked call :: rest = all at h
  have hshown : ∀ {passed : Nat} {marks : List String},
      Shows id all passed (milestones.take (passed - 1) ++ marks) →
        Shows id events call.request.step.passed
          (milestones.take (call.request.step.passed - 1)) := by
    intro passed marks hshows
    rw [← hall] at hshows
    exact hshows.before_milestones hcall
  cases h with
  | refused => simp at hall
  | @stopped valid _ error plan hvalid hstops =>
      obtain ⟨hshows, hpassed⟩ := shows_of_stopsAt hstops
      have hmarks : [] = milestones.take (error.step.passed - 1) ++ [] := by
        rw [show error.step.passed - 1 = 0 by omega, List.take_zero, List.append_nil]
      rw [hmarks] at hshows
      exact hshown hshows
  | unpayable plan =>
      have hshows : Shows id _ 1 (milestones.take (1 - 1) ++ []) := shows_opening plan id
      exact hshown hshows
  | @uncharged _ total _ plan diverted failure =>
      have hshows : Shows id _ 2 (milestones.take (2 - 1) ++ []) :=
        shows_toCharge plan id total diverted (.error failure)
      exact hshown hshows
  | @unshipped _ total _ plan diverted transaction failure =>
      have hshows : Shows id _ 3 (milestones.take (3 - 1) ++ []) :=
        shows_toShipment plan id total diverted transaction (.error failure)
      -- The charge in vain is noted last, so it is noted after the call.
      rcases rest.eq_nil_or_concat with rfl | ⟨rest, last, rfl⟩
      · have hlast := (List.append_inj' hall rfl).2
        cases hlast
      · rw [List.concat_eq_append, ← List.cons_append, ← List.append_assoc] at hall
        have hfirst := (List.append_inj' hall rfl).1
        rw [← hfirst] at hshows
        exact hshows.before_milestones hcall
  | placed plan diverted transaction tracking answer =>
      exact hshown (shows_toEnd plan id _ diverted transaction tracking answer)

end Checkout

end Storefront
