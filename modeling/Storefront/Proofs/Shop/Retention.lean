import Storefront.Proofs.RetainedLog
import Storefront.Proofs.Shop.Moves
import Storefront.Shop.Demo

/-!
# What a shop keeps

`Happens` is everything that can happen in a shop that places orders for its customers, one thing at
a time. Nothing that happens makes a log longer than there is room for, so `HappensTo.retains`: at
every moment each log of the shop has as many entries as were ever pushed, or as there is room for.
-/

namespace Storefront

namespace Collaborators

/-- Each log of the collaborators has as many entries as were ever pushed or as there is room
for. -/
structure Retains (c : Collaborators) (capacity : Nat) : Prop where
  charges : c.payments.charges.Retains capacity
  shipments : c.shipping.shipments.Retains capacity
  confirmations : c.mail.sent.Retains capacity
  messages : c.broker.messages.Retains capacity

variable {c : Collaborators} {capacity : Nat}

/-- An answer makes no log longer than there is room for. -/
theorem Retains.answer (h : c.Retains capacity) (request : Request) (isScripted : Bool) :
    (c.answer request isScripted).2.Retains capacity := by
  unfold Collaborators.answer
  split
  · exact h
  · cases request with
    | getCart | getProduct | getQuote | convert => exact h
    | emptyCart => exact ⟨h.charges, h.shipments, h.confirmations, h.messages⟩
    | charge amount card diverted =>
        unfold serviceAnswer Collaborators.charge Payments.charge
        dsimp only
        split
        · exact h
        · split
          · exact h
          · exact ⟨h.charges.push _, h.shipments, h.confirmations, h.messages⟩
    | shipOrder address lines =>
        unfold serviceAnswer Shipping.ship
        dsimp only
        split
        · exact h
        · exact ⟨h.charges, h.shipments.push _, h.confirmations, h.messages⟩
    | confirm confirmation =>
        unfold serviceAnswer Collaborators.confirm Mail.send
        dsimp only
        split
        · exact h
        · split
          · exact h
          · exact ⟨h.charges, h.shipments, h.confirmations.push _, h.messages⟩

/-- Neither does a message. -/
theorem Retains.send (h : c.Retains capacity) (message : Message) (isScripted : Bool) :
    (c.send message isScripted).2.Retains capacity := by
  unfold Collaborators.send Broker.send
  split
  · exact h
  · dsimp only
    split
    · exact h
    · exact ⟨h.charges, h.shipments, h.confirmations, h.messages.push _⟩

end Collaborators

namespace Shop

/-- The cart of a user of the demonstration shop is filled. -/
def fillCart (shop : Shop) (user : UserId) : Shop :=
  { shop with
    collaborators :=
      { shop.collaborators with carts := Demo.fillCart shop.collaborators.carts user } }

/-- Charges are diverted from now on, or no longer. -/
def setDivert (shop : Shop) (divert : Bool) : Shop :=
  { shop with faults := { shop.faults with divert := divert } }

/-- `shop.Happens next` says that one thing happens in a shop: a move of the background or of a
call, a step of an order, a line in the log, or something that is done to carts and faults. -/
inductive Happens (shop : Shop) : Shop → Prop where
  | moved {next : Shop} : shop.Moves next → Happens shop next
  | opened (caller request) : Happens shop (shop.openOrder caller request).2
  | noted (caller span n) : Happens shop (shop.note caller span n).2
  | closed (span result) : Happens shop (shop.closeOrder span result)
  | said (line) : Happens shop (shop.say line)
  | filled (user) : Happens shop (shop.fillCart user)
  | diverted (divert) : Happens shop (shop.setDivert divert)

/-- `shop.HappensTo moment` says that what happens in a shop leads to this moment. -/
abbrev HappensTo : Shop → Shop → Prop :=
  Relation.ReflTransGen Happens

variable {shop next moment : Shop} {capacity : Nat}

/-- Moves happen. -/
theorem HappensTo.of_moves (h : shop.MovesTo next) : shop.HappensTo next :=
  h.preserves (P := shop.HappensTo) (fun hmove hsofar ↦ hsofar.tail (.moved hmove)) .refl

/-- A dialogue happens, whether it is abandoned or not. -/
theorem converse_happens {α : Type} (caller : Caller) (abandonAt : Option Nat) (d : Dialogue α)
    (span : Span) (shop : Shop) :
    shop.HappensTo (converse caller abandonAt d span shop).2.2 := by
  induction d generalizing span shop with
  | done => exact .refl
  | ask request next ih =>
      have hcall := HappensTo.of_moves (shop.call_moves caller abandonAt request)
      unfold converse
      generalize shop.call caller abandonAt request = called at hcall ⊢
      obtain ⟨_ | answer, after⟩ := called
      · exact hcall
      · exact hcall.trans (ih answer span after)
  | consult next ih => exact ih _ span shop
  | note n next ih => exact .head (.noted caller span n) (ih _ _)

/-- An order happens, whether it is abandoned or not. -/
theorem place_happens (shop : Shop) (caller : Caller) (abandonAt : Option Nat)
    (request : OrderRequest) : shop.HappensTo (shop.place caller abandonAt request).2 := by
  have hopen : shop.HappensTo (shop.openOrder caller request).2 := .single (.opened _ _)
  have hconverse := hopen.trans
    (converse_happens (caller.withParent (shop.openOrder caller request).1.context) abandonAt
      (Checkout.placeOrder shop.nextOrder request).run (shop.openOrder caller request).1 _)
  unfold place
  dsimp only
  generalize converse _ abandonAt _ _ _ = run at hconverse ⊢
  obtain ⟨_ | result, last, closing⟩ := run
  · exact hconverse.tail (.moved (.givenUp last))
  · exact hconverse.tail (.closed last result)

/-- The shop has room for so many entries in each log, and records no calls. -/
structure Retains (shop : Shop) (capacity : Nat) : Prop where
  logs : shop.collaborators.Retains capacity
  calls : shop.calls = .disabled

/-- A log that records no calls still records none when a request has been heard. -/
theorem calls_send (shop : Shop) (h : shop.calls = .disabled) (caller : Caller)
    (request : Request) : (shop.send caller request).2.calls = .disabled := by
  have hhear : ∀ (shop : Shop) (context : Context), shop.calls = .disabled →
      (shop.hear request context).calls = .disabled := by
    intro shop context h
    unfold hear CallLog.record
    split
    · dsimp only
      rw [h]
      split <;> rfl
    · exact h
  unfold send
  dsimp only
  split
  · exact hhear _ _ h
  · exact h

/-- The end of a call makes no log longer than there is room for. -/
theorem Retains.settle (h : shop.Retains capacity) (request : Request) (sent : Sent) :
    (shop.settle request sent).2.Retains capacity := by
  obtain ⟨span, hsettle⟩ := shop.exists_settle_eq request sent
  rw [hsettle]
  unfold answerUnless
  cases sent.interruption with
  | some reason => exact ⟨h.logs, h.calls⟩
  | none => exact ⟨h.logs.answer request sent.isScripted, h.calls⟩

/-- No move makes a log longer than there is room for. -/
theorem Moves.retains (hmove : shop.Moves next) (h : shop.Retains capacity) :
    next.Retains capacity := by
  cases hmove with
  | rearranged | givenUp | begun => exact ⟨h.logs, h.calls⟩
  | sent caller request =>
      refine ⟨?_, shop.calls_send h.calls caller request⟩
      have hcollaborators : (shop.send caller request).2.collaborators = shop.collaborators := by
        unfold send hear
        dsimp only
        split
        · split <;> rfl
        · rfl
      rw [hcollaborators]
      exact h.logs
  | settled request sent => exact h.settle request sent
  | confirmed confirmation sent =>
      have hsettle := h.settle (.confirm confirmation) sent
      unfold endConfirmation
      rcases hend : shop.settle (.confirm confirmation) sent with ⟨_ | _, ended⟩
      · rw [hend] at hsettle
        exact ⟨hsettle.logs, hsettle.calls⟩
      · rw [hend] at hsettle
        exact ⟨hsettle.logs, hsettle.calls⟩
  | copied sent =>
      have hdeliver : (shop.deliverUnless sent.2 sent.1).2.Retains capacity := by
        unfold deliverUnless
        cases sent.1.interruption with
        | some reason => exact h
        | none => exact ⟨h.logs.send sent.2 sent.1.isScripted, h.calls⟩
      unfold endCopy endAnnouncement
      rcases hend : shop.deliverUnless sent.2 sent.1 with ⟨_ | _, ended⟩
      · rw [hend] at hdeliver
        exact ⟨hdeliver.logs, hdeliver.calls⟩
      · rw [hend] at hdeliver
        exact ⟨hdeliver.logs, hdeliver.calls⟩

/-- Nothing that happens makes a log longer than there is room for. -/
theorem Happens.retains (hhappens : shop.Happens next) (h : shop.Retains capacity) :
    next.Retains capacity := by
  cases hhappens with
  | moved hmove => exact hmove.retains h
  | noted caller span n =>
      match n with
      | .completed order email =>
          obtain ⟨tasks, heq⟩ := shop.followUp_eq caller order email
          show (shop.followUp caller order email).Retains capacity
          rw [heq]
          exact ⟨h.logs, h.calls⟩
      | .attribute .. | .event .. | .line _ | .progress .. | .setback _ =>
          exact ⟨h.logs, h.calls⟩
  | closed span result => cases result <;> exact ⟨h.logs, h.calls⟩
  | filled user =>
      obtain ⟨hcharges, hshipments, hconfirmations, hmessages⟩ := h.logs
      exact ⟨⟨hcharges, hshipments, hconfirmations, hmessages⟩, h.calls⟩
  | opened | said | diverted => exact ⟨h.logs, h.calls⟩

/-- At no moment is a log longer than there is room for. -/
theorem HappensTo.retains (hhappens : shop.HappensTo moment) (h : shop.Retains capacity) :
    moment.Retains capacity := by
  induction hhappens with
  | refl => exact h
  | tail _ hlast ih => exact hlast.retains ih

end Shop

end Storefront
