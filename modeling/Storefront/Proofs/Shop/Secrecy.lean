import Storefront.Proofs.Checkout.Secrecy
import Storefront.Proofs.Shop.Outcome

/-!
# A shop does not remember cards

A shop that is asked to charge a card does the same whatever the card, `call_charge`, so twins make
the same of it, `converse_twins`. The main theorem, `place_hides_card`, compares two orders that
differ in the card, both cards being usable: they come to the same result, and when the background
has come to rest everything about the shop is the same, log, spans, metrics, recorded calls,
messages, and stores. What was said on the way differs in the card that was charged.
-/

namespace Storefront

/-- A scripted answer comes before that of the service. -/
theorem Collaborators.answer_eq (c : Collaborators) (r : Request) (isScripted : Bool) :
    c.answer r isScripted =
      ((if isScripted then c.scripted.answer? r else none).map fun reply ↦ (reply, c)).getD
        (c.serviceAnswer r) := by
  unfold answer
  split
  · rename_i h
    rw [h]
    rfl
  · rename_i h
    rw [h]
    rfl

namespace Shop

section

variable (card other : Card) {amount : Money} {diverted : Bool}

/-- What is answered to a charge has nothing to do with the card. -/
theorem answerUnless_charge (shop : Shop) (sent : Sent) :
    shop.answerUnless (.charge amount card diverted) sent =
      shop.answerUnless (.charge amount other diverted) sent := by
  unfold answerUnless
  cases sent.interruption with
  | some reason => rfl
  | none =>
      dsimp only
      unfold answer
      rw [Collaborators.answer_eq, Collaborators.answer_eq]
      rfl

/-- A charge ends in the same way whatever the card. -/
theorem settle_charge (shop : Shop) (sent : Sent) :
    shop.settle (.charge amount card diverted) sent =
      shop.settle (.charge amount other diverted) sent := by
  unfold settle
  rw [answerUnless_charge card other]
  cases shop.answerUnless (.charge amount other diverted) sent with
  | mk answer next => cases answer <;> rfl

/-- A charge is the same call whatever the card. -/
theorem call_charge (shop : Shop) (caller : Caller) (abandonAt : Option Nat) :
    shop.call caller abandonAt (.charge amount card diverted) =
      shop.call caller abandonAt (.charge amount other diverted) := by
  have hsend : shop.send caller (.charge amount card diverted) =
      shop.send caller (.charge amount other diverted) := rfl
  unfold call
  rw [hsend]
  dsimp only
  split
  · rw [settle_charge card other]
  · rfl

end

variable {card other : Card} {caller : Caller} {abandonAt : Option Nat}

/-- Twins make the same of a shop. -/
theorem converse_twins {α : Type} {d d' : Dialogue α} (h : Dialogue.Twins card other d d')
    (span : Span) (shop : Shop) :
    converse caller abandonAt d span shop = converse caller abandonAt d' span shop := by
  induction h generalizing span shop with
  | done => rfl
  | ask request _ ih =>
      unfold converse
      split
      · exact ih _ _ _
      · rfl
  | charge amount diverted _ ih =>
      unfold converse
      rw [call_charge card other]
      split
      · exact ih _ _ _
      · rfl
  | consult _ ih => exact ih _ _ _
  | note n _ ih => exact ih _ _

/-- A shop that hosts a conversation could have hosted its twin. -/
theorem hosts_twins {span last : Span} {shop final : Shop} {events others : List Event}
    (htwins : List.Forall₂ (Event.Twins card other) events others)
    (h : Hosts caller abandonAt span shop events last final) :
    Hosts caller abandonAt span shop others last final := by
  induction h generalizing others with
  | done =>
      cases htwins
      exact .done
  | asked hcall _ ih =>
      cases htwins with
      | cons hevent hrest =>
          cases hevent with
          | same => exact .asked hcall (ih hrest)
          | charged amount diverted answer =>
              rw [call_charge card other] at hcall
              exact .asked hcall (ih hrest)
  | consulted _ ih =>
      cases htwins with
      | cons hevent hrest =>
          cases hevent
          exact .consulted (ih hrest)
  | noted _ ih =>
      cases htwins with
      | cons hevent hrest =>
          cases hevent
          exact .noted (ih hrest)

/-- A shop places twin orders in the same way. -/
theorem place_twins (shop : Shop) {request twin : OrderRequest}
    (htwins : ∀ id, Placement.Twins card other (Checkout.placeOrder id request)
      (Checkout.placeOrder id twin))
    (hopen : shop.openOrder caller twin = shop.openOrder caller request) :
    shop.place caller abandonAt twin = shop.place caller abandonAt request := by
  unfold place
  rw [hopen]
  dsimp only
  rw [converse_twins (htwins _)]

/-- Place an order, and let time pass until no task is left: the result, how many tasks there were,
and the shop. -/
def placeAndDrain (shop : Shop) (caller : Caller) (abandonAt : Option Nat)
    (request : OrderRequest) : Option (Except PlacementError Order) × Nat × Shop :=
  let (result, shop) := shop.place caller abandonAt request
  (result, shop.drain)

/-- Two orders that differ in the card, both cards being usable, have the same result and leave the
same shop behind, and every conversation in which the one is placed is one in which the other could
have been, but for the card that is charged. -/
theorem place_hides_card (shop : Shop) (caller : Caller) (abandonAt : Option Nat)
    (request : OrderRequest) (hcard : request.card = some card)
    (husable : card.unusableField? = none) (hother : other.unusableField? = none) :
    shop.placeAndDrain caller abandonAt { request with card := some other } =
        shop.placeAndDrain caller abandonAt request ∧
      ∀ events result final, shop.Places caller abandonAt request events result final →
        ∃ others, shop.Places caller abandonAt { request with card := some other } others result
          final ∧ List.Forall₂ (Event.Twins card other) events others := by
  have htwins := fun id ↦ Checkout.placeOrder_twins id hcard husable hother
  -- The card is not looked at when an order is opened.
  have hopen : shop.openOrder caller { request with card := some other } =
      shop.openOrder caller request := rfl
  refine ⟨?_, ?_⟩
  · unfold placeAndDrain
    rw [shop.place_twins htwins hopen]
  · rintro events result final ⟨hplays, last, closing, hhosts, rfl⟩
    obtain ⟨others, hothers, hevents⟩ := (htwins shop.nextOrder).exists_plays hplays
    refine ⟨others, ⟨hothers, last, closing, ?_, rfl⟩, hevents⟩
    rw [hopen]
    exact hosts_twins hevents hhosts

/-- Another card. -/
def demoOtherCard : Card :=
  ⟨" 5555 4444 ", 7, 2031, 12⟩

/-- The demonstration shop places an order with one card as it does with another. -/
theorem demo_place_hides_card : ∃ order drained final,
    demoOtherCard.unusableField? = none ∧
      (Demo.start .standard 0 0).placeAndDrain .background none demoRequest =
        (some (.ok order), drained, final) ∧
      (Demo.start .standard 0 0).placeAndDrain .background none
        { demoRequest with card := some demoOtherCard } = (some (.ok order), drained, final) := by
  have hplaced : ((Demo.start .standard 0 0).placeAndDrain .background none demoRequest).1.any
      Except.isOk = true := rfl
  have hother : demoOtherCard.unusableField? = none := by decide
  obtain ⟨hsame, -⟩ := place_hides_card (Demo.start .standard 0 0) .background none demoRequest rfl
    (by decide) hother
  rw [hsame]
  generalize (Demo.start .standard 0 0).placeAndDrain .background none demoRequest = placed
    at hplaced ⊢
  obtain ⟨_ | _ | order, drained, final⟩ := placed
  · cases hplaced
  · cases hplaced
  · exact ⟨order, drained, final, hother, rfl, rfl⟩

end Shop

end Storefront
