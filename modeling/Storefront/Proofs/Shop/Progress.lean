import Storefront.Proofs.Checkout.Milestones
import Storefront.Proofs.Shop.Commitment
import Storefront.Proofs.Shop.Moves

/-!
# What a shop reports of an order

The log and the span of an order against what has been done for it. Neither calls nor the
background write what only a checkout writes, `Moves.said_eq`, so the log says of an order what its
conversation says, `Hosts.said_eq`, and its span bears the marks that the conversation leaves,
`Hosts.bears`. The main theorem, `place_progresses`, is about every run: one that ends with an
order, one that fails, and one that is abandoned while it waits for a call.
-/

namespace Storefront

namespace Shop

variable {caller : Caller} {abandonAt : Option Nat} {shop next final : Shop} {span last : Span}

/-- The lines of a text in the log of a shop, in order. -/
def said (shop : Shop) (text : String) : List LogLine :=
  shop.log.filter fun line ↦ line.message = text

section

variable {text : String}

/-- Lines of other texts do not matter. -/
theorem said_of_log_eq {lines : List LogLine} (hlog : next.log = shop.log ++ lines)
    (hlines : ∀ line ∈ lines, line.message ≠ text) : next.said text = shop.said text := by
  have hnone : lines.filter (fun line ↦ line.message = text) = [] :=
    List.filter_eq_nil_iff.mpr fun line hline ↦ by simpa using hlines line hline
  rw [said, hlog, List.filter_append, hnone, List.append_nil]
  rfl

/-- What is written about the progress of an order is not written by calls or in the background. -/
theorem not_mem_backgroundTexts (htext : text ∈ orderTexts) : text ∉ backgroundTexts := by
  rcases Event.eq_of_mem_orderTexts htext with rfl | rfl <;> decide

/-- A move writes nothing about the progress of an order. -/
theorem Moves.said_eq (htext : text ∈ orderTexts) (h : shop.Moves next) :
    next.said text = shop.said text := by
  obtain ⟨lines, hlog, hlines⟩ := h.leaves.log
  refine said_of_log_eq hlog fun line hline hsame ↦ not_mem_backgroundTexts htext ?_
  rw [← hsame]
  exact hlines line hline

/-- A note writes its line. -/
theorem log_note (shop : Shop) (caller : Caller) (span : Span) (n : Note) :
    (shop.note caller span n).2.log = shop.log ++ n.line?.toList := by
  match n with
  | .attribute .. | .event .. => exact (List.append_nil _).symm
  | .line _ | .progress .. | .setback _ => rfl
  | .completed order email =>
      obtain ⟨tasks, heq⟩ := shop.followUp_eq caller order email
      show (shop.followUp caller order email).log = _
      rw [heq]
      unfold Note.line?
      dsimp only
      split <;> rfl

/-- The log says of an order what its conversation says. -/
theorem Hosts.said_eq {events : List Event} (htext : text ∈ orderTexts)
    (h : Hosts caller abandonAt span shop events last final) :
    final.said text = shop.said text ++ saying text events := by
  induction h with
  | done => exact (List.append_nil _).symm
  | @asked span shop request answer next events last final hcall _ ih =>
      have hmoves := shop.call_moves caller abandonAt request
      rw [hcall] at hmoves
      have hnext : next.said text = shop.said text :=
        hmoves.eq (f := fun s ↦ s.said text) fun hmove ↦ hmove.said_eq htext
      rw [ih, hnext, saying_cons, Event.says?_asked]
      rfl
  | consulted _ ih =>
      rw [ih, saying_cons, Event.says?_consulted]
      rfl
  | @noted span shop n events last final _ ih =>
      have hnote : (shop.note caller span n).2.said text =
          shop.said text ++ ((Event.noted n).says? text).toList := by
        unfold said Event.says?
        rw [log_note, List.filter_append, Option.toList_filter]
      rw [ih, hnote, saying_cons, List.append_assoc]

end

/-- A note leaves its mark on the span if there is room. -/
theorem note_bears (shop : Shop) (caller : Caller) {names : List String} (h : span.Bears names)
    (n : Note) (hroom : names.length + n.mark?.toList.length ≤ SpanRecord.maxEvents) :
    (shop.note caller span n).1.Bears (names ++ n.mark?.toList) := by
  match n with
  | .attribute key value =>
      rw [show (Note.attribute key value).mark? = none from rfl, Option.toList_none,
        List.append_nil]
      exact h.setAttribute key value
  | .event name attributes => exact h.addEvent hroom name attributes
  | .setback error => exact h.addEvent hroom _ _
  | .line _ | .progress .. | .completed .. =>
      refine (congrArg span.Bears ?_).mpr h
      exact List.append_nil names

/-- The span of an order bears the marks that its conversation leaves. -/
theorem Hosts.bears {events : List Event} {names : List String}
    (h : Hosts caller abandonAt span shop events last final) (hspan : span.Bears names)
    (hroom : names.length + (marksOf events).length ≤ SpanRecord.maxEvents) :
    last.Bears (names ++ marksOf events) := by
  induction h generalizing names with
  | done =>
      rw [marksOf_nil, List.append_nil]
      exact hspan
  | asked _ _ ih => exact ih hspan hroom
  | consulted _ ih => exact ih hspan hroom
  | @noted span shop n events last final _ ih =>
      rw [marksOf_cons, List.length_append] at hroom
      have hmark : (Event.noted n).mark? = n.mark? := rfl
      rw [marksOf_cons, ← List.append_assoc]
      rw [hmark] at hroom ⊢
      refine ih (shop.note_bears caller hspan n (by omega)) ?_
      rw [List.length_append]
      omega

/-- `shop.Reported caller request passed marks failed lines final` says what `final` has on record
of an order that was placed in a shop: the first so many passages and these lines about a charge in
vain in the log, and, if its trace is recorded, a span with these marks at the end, which failed or
did not. -/
structure Reported (shop : Shop) (caller : Caller) (request : OrderRequest) (passed : Nat)
    (marks : List String) (failed : Bool) (lines : List LogLine) (final : Shop) : Prop where
  progress : final.said progressText = shop.said progressText ++
    (Stage.passages passed .validating).map (progressLine shop.nextOrder)
  inVain : final.said inVainText = shop.said inVainText ++ lines
  span : (shop.openOrder caller request).1.context.isSampled = true →
    ∃ before record, final.spans = before ++ [record] ∧
      (shop.openOrder caller request).1.Records "PlaceOrder" .server caller.context.parent failed
        record ∧
      record.events.map SpanEvent.name = marks

/-- `shop.Progresses caller abandonAt request outcome final` says that what is on record of an order
is what was done for it. An order that is placed has passed all stages; one that fails has passed
those before the step at which it failed, and a charge in vain is reported exactly if that step is
the shipment; one that is abandoned has passed those before the call that it was waiting for. -/
inductive Progresses (shop : Shop) (caller : Caller) (abandonAt : Option Nat)
    (request : OrderRequest) : Option (Except PlacementError Order) → Shop → Prop where
  | placed {events order final} : shop.Places caller abandonAt request events (.ok order) final →
      shop.Reported caller request 6
        (milestones ++ if Checkout.leavesCart events then ["empty_cart failed"] else []) false []
        final →
      Progresses shop caller abandonAt request (some (.ok order)) final
  | failed {error lines final} :
      (error.step = .shipOrder →
        ∃ transaction, lines = [Checkout.inVainLine shop.nextOrder transaction]) →
      (error.step ≠ .shipOrder → lines = []) →
      shop.Reported caller request error.step.passed
        (milestones.take (error.step.passed - 1) ++ ["exception"]) true lines final →
      Progresses shop caller abandonAt request (some (.error error)) final
  | abandoned {events pending final} :
      shop.Abandons caller abandonAt request events pending final →
      shop.Reported caller request pending.step.passed
        (milestones.take (pending.step.passed - 1)) false [] final →
      Progresses shop caller abandonAt request none final

/-- A conversation of an order is on record when the order has come to its end, if the span ends
with the marks of the conversation and nothing more is said. -/
theorem Hosts.reported {request : OrderRequest} {events : List Event} {closing : Shop}
    {passed : Nat} {marks : List String} {failed : Bool} {ended : Span}
    (h : Hosts (caller.withParent (shop.openOrder caller request).1.context) abandonAt
      (shop.openOrder caller request).1 (shop.openOrder caller request).2 events last closing)
    (horderly : ∀ event ∈ events, event.IsOrderly)
    (hprogress : saying progressText events =
      (Stage.passages passed .validating).map (progressLine shop.nextOrder))
    (hroom : (marksOf events).length ≤ SpanRecord.maxEvents)
    (hends : ∀ {span : Span}, span.Grows last → span.EndsAs failed ended)
    (hmarks : last.Bears (marksOf events) → ended.Bears marks)
    (hsaid : ∀ text ∈ orderTexts, final.said text = closing.said text)
    (hspans : ∃ before, final.spans = before ++ ended.record?.toList) :
    shop.Reported caller request passed marks failed (saying inVainText events) final := by
  have hlog : ∀ text ∈ orderTexts, final.said text = shop.said text ++ saying text events := by
    intro text htext
    rw [hsaid text htext, h.said_eq htext]
    rfl
  have hbegins : (shop.openOrder caller request).1.Begins "PlaceOrder" .server
      caller.context.parent :=
    (shop.tracer.start_begins _ _ _).of_grows (.setAttributes _ _)
  have hbears : (shop.openOrder caller request).1.Bears [] :=
    (shop.tracer.start_bears _ _ _).setAttributes _
  have hlast := h.bears hbears (by simpa using hroom)
  obtain ⟨-, -, hgrows⟩ := h.goes True horderly
  obtain ⟨hrecorded, hrecord⟩ := hbegins.of_endsAs (hends hgrows)
  refine ⟨?_, hlog inVainText (.tail _ (.head _)), fun hsampled ↦ ?_⟩
  · rw [hlog progressText (.head _), hprogress]
  · rw [hsampled] at hrecorded
    obtain ⟨record, hsome⟩ := Option.isSome_iff_exists.mp hrecorded
    obtain ⟨before, hspans⟩ := hspans
    rw [hsome] at hspans
    exact ⟨before, record, hspans, hrecord record hsome, hmarks hlast record hsome⟩

/-- The last line about an order says nothing of its progress. -/
theorem said_closeOrder {text : String} (htext : text ∈ orderTexts) (shop : Shop) (span : Span)
    (result : Except PlacementError Order) :
    (shop.closeOrder span result).said text = shop.said text := by
  have hlast : "order placed" ≠ text ∧ "order placement failed" ≠ text := by
    rcases Event.eq_of_mem_orderTexts htext with rfl | rfl <;> decide
  cases result with
  | ok order => exact said_of_log_eq rfl (by simpa using hlast.1)
  | error error => exact said_of_log_eq rfl (by simpa using hlast.2)

/-- There is room on a span for the milestones. -/
theorem length_take_milestones (n : Nat) :
    (milestones.take n).length < SpanRecord.maxEvents := by
  have hlength : (milestones.take n).length ≤ 3 := List.length_take_le' n milestones
  unfold SpanRecord.maxEvents
  omega

/-- An order that is abandoned is on record up to the call that it was waiting for. -/
theorem Abandons.progresses {request : OrderRequest} {events : List Event} {pending : Request}
    (h : shop.Abandons caller abandonAt request events pending final) :
    shop.Progresses caller abandonAt request none final := by
  obtain ⟨hhalts, last, waiting, closing, hhosts, hcall, rfl⟩ := id h
  obtain ⟨rest, value, hplays⟩ := hhalts.exists_plays
  have hconforms := Checkout.conforms hplays
  have horderly := hconforms.isOrderly
  rw [List.forall_mem_append] at horderly
  obtain ⟨hprogress, hmarks, hcalm, -⟩ := hconforms.shows_before
  -- The call that was given up has said nothing.
  have hmoves := waiting.call_moves
    (caller.withParent (shop.openOrder caller request).1.context) abandonAt pending
  rw [hcall] at hmoves
  refine .abandoned h ?_
  rw [← hcalm, ← hmarks]
  refine hhosts.reported horderly.1 hprogress ?_ .done id (fun text htext ↦ ?_) ⟨_, rfl⟩
  · rw [hmarks]
    exact (length_take_milestones _).le
  · have hlast : (closing.finishSpan last).said text = closing.said text := rfl
    rw [hlast]
    exact hmoves.eq (f := fun s ↦ s.said text) fun hmove ↦ hmove.said_eq htext

/-- An order that comes to its end is on record as far as its result says. -/
theorem Places.progresses {request : OrderRequest} {events : List Event}
    {result : Except PlacementError Order}
    (h : shop.Places caller abandonAt request events result final) :
    shop.Progresses caller abandonAt request (some result) final := by
  have hconforms := Checkout.conforms h.1
  obtain ⟨-, last, closing, hhosts, rfl⟩ := id h
  cases result with
  | ok order =>
      obtain ⟨hprogress, hmarks, hcalm, -⟩ := hconforms.shows
      refine .placed h ?_
      rw [← hcalm, ← hmarks]
      refine hhosts.reported hconforms.isOrderly hprogress ?_ .done id
        (fun text htext ↦ said_closeOrder htext _ _ _) ⟨_, rfl⟩
      rw [hmarks]
      split <;> decide
  | error error =>
      obtain ⟨hprogress, hmarks, hinVain, hcalm⟩ := hconforms.reports
      refine .failed hinVain hcalm ?_
      rw [← hmarks]
      have hroom : (marksOf events).length < SpanRecord.maxEvents := by
        rw [hmarks]
        exact length_take_milestones _
      exact hhosts.reported hconforms.isOrderly hprogress hroom.le
        (fun hgrows ↦ .failed hgrows error.message) (fun hlast ↦ hlast.fail hroom error.message)
        (fun text htext ↦ said_closeOrder htext _ _ _) ⟨_, rfl⟩

/-- What a shop has on record of an order is what was done for it, whether the order is placed,
fails, or is abandoned. -/
theorem place_progresses (shop : Shop) (caller : Caller) (abandonAt : Option Nat)
    (request : OrderRequest) :
    shop.Progresses caller abandonAt request (shop.place caller abandonAt request).1
      (shop.place caller abandonAt request).2 := by
  rcases hplace : shop.place caller abandonAt request with ⟨_ | result, final⟩
  · obtain ⟨events, pending, habandons⟩ := exists_abandons hplace
    exact habandons.progresses
  · obtain ⟨events, hplaces⟩ := place_eq_some_iff.mp hplace
    exact hplaces.progresses

end Shop

end Storefront
