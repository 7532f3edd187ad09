import Mathlib.Data.List.Forall2
import Storefront.Checkout.Placement
import Storefront.Proofs.Checkout.Conversation

/-!
# A card shows in the charge alone

Two checkouts for requests that differ in the card, both cards being usable. As dialogues they are
twins: they say the same, word for word, but for the card that is charged. `placeOrder_twins` says
so of the checkout, and by `Dialogue.Twins.exists_plays` whatever answers the one can get the other
can get, too.
-/

namespace Storefront

/-- `Twins card other e e'` says that two events are the same, or are charges of the same amount to
the two cards with the same answer. -/
inductive Event.Twins (card other : Card) : Event → Event → Prop where
  | same (e : Event) : Twins card other e e
  | charged (amount : Money) (diverted : Bool) (answer : Except CallFailure String) :
      Twins card other (.asked ⟨.charge amount card diverted, answer⟩)
        (.asked ⟨.charge amount other diverted, answer⟩)

/-- `Twins card other d d'` says that two dialogues are the same but for charges, which are to the
one card in the first and to the other in the second. -/
inductive Dialogue.Twins (card other : Card) {α : Type} : Dialogue α → Dialogue α → Prop where
  | done (value : α) : Twins card other (.done value) (.done value)
  | ask (request : Request) {next next' : Except CallFailure request.Accepted → Dialogue α} :
      (∀ answer, Twins card other (next answer) (next' answer)) →
      Twins card other (.ask request next) (.ask request next')
  | charge (amount : Money) (diverted : Bool)
      {next next' : Except CallFailure String → Dialogue α} :
      (∀ answer, Twins card other (next answer) (next' answer)) →
      Twins card other (.ask (.charge amount card diverted) next)
        (.ask (.charge amount other diverted) next')
  | consult {next next' : Bool → Dialogue α} :
      (∀ diverted, Twins card other (next diverted) (next' diverted)) →
      Twins card other (.consult next) (.consult next')
  | note (n : Note) {next next' : Dialogue α} :
      Twins card other next next' → Twins card other (.note n next) (.note n next')

variable {α β : Type} {card other : Card}

namespace Request

/-- The answers to a charge have nothing to do with the card. -/
theorem Answers.of_charge {amount : Money} {diverted : Bool}
    {answer : Except CallFailure (Accepted (.charge amount card diverted))}
    (h : Answers (.charge amount card diverted) answer) :
    Answers (.charge amount other diverted) answer := by
  cases h with
  | interrupted reason => exact .interrupted reason
  | replied reply => exact @replied (.charge amount other diverted) reply

end Request

namespace Dialogue.Twins

variable {d d' : Dialogue α}

/-- A dialogue is its own twin. -/
theorem refl (d : Dialogue α) : Twins card other d d := by
  induction d with
  | done value => exact .done value
  | ask request next ih => exact .ask request ih
  | consult next ih => exact .consult ih
  | note n next ih => exact .note n ih

/-- Twins that go on as twins are twins. -/
theorem bind {f f' : α → Dialogue β} (h : Twins card other d d')
    (hf : ∀ value, Twins card other (f value) (f' value)) :
    Twins card other (d.bind f) (d'.bind f') := by
  induction h with
  | done value => exact hf value
  | ask request _ ih => exact .ask request ih
  | charge amount diverted _ ih => exact .charge amount diverted ih
  | consult _ ih => exact .consult ih
  | note n _ ih => exact .note n ih

/-- A play of a dialogue has a twin that is a play of its twin, with the same value. -/
theorem exists_plays (h : Twins card other d d') {events : List Event} {value : α}
    (hplays : d.Plays events value) :
    ∃ others, d'.Plays others value ∧ List.Forall₂ (Event.Twins card other) events others := by
  induction h generalizing events with
  | done =>
      cases hplays
      exact ⟨[], .done _, .nil⟩
  | ask request _ ih =>
      cases hplays with
      | asked hanswer hrest =>
          obtain ⟨others, hothers, htwins⟩ := ih _ hrest
          exact ⟨_, .asked hanswer hothers, .cons (.same _) htwins⟩
  | charge amount diverted _ ih =>
      cases hplays with
      | asked hanswer hrest =>
          obtain ⟨others, hothers, htwins⟩ := ih _ hrest
          exact ⟨_, .asked hanswer.of_charge hothers, .cons (.charged amount diverted _) htwins⟩
  | consult _ ih =>
      cases hplays with
      | consulted hrest =>
          obtain ⟨others, hothers, htwins⟩ := ih _ hrest
          exact ⟨_, .consulted hothers, .cons (.same _) htwins⟩
  | note n _ ih =>
      cases hplays with
      | noted hrest =>
          obtain ⟨others, hothers, htwins⟩ := ih hrest
          exact ⟨_, .noted hothers, .cons (.same _) htwins⟩

end Dialogue.Twins

namespace Placement

/-- A requirement that is met is passed. -/
theorem require_ok {ε : Type} (wrap : ε → PlacementError) (value : α) (f : α → Placement β) :
    require wrap (.ok value) >>= f = f value :=
  rfl

variable {p p' : Placement α}

/-- Two placements are twins as dialogues. -/
abbrev Twins (card other : Card) (p p' : Placement α) : Prop :=
  Dialogue.Twins card other p.run p'.run

/-- A placement is its own twin. -/
theorem Twins.refl (p : Placement α) : Twins card other p p :=
  Dialogue.Twins.refl _

/-- Twins that go on as twins are twins; if they fail, they fail alike. -/
theorem Twins.bind {f f' : α → Placement β} (h : Twins card other p p')
    (hf : ∀ value, Twins card other (f value) (f' value)) :
    Twins card other (p >>= f) (p' >>= f') := by
  refine Dialogue.Twins.bind h fun result ↦ ?_
  cases result with
  | error error => exact .done _
  | ok value => exact hf value

end Placement

/-- Two requests for orders that differ in the card, when both cards are usable, are both refused
for the same reason or both accepted, and then still differ in the card alone. -/
theorem OrderRequest.validate_withCard {request : OrderRequest} (hcard : request.card = some card)
    (husable : card.unusableField? = none) (hother : other.unusableField? = none) :
    (∃ defect, request.validate = .error defect ∧
      { request with card := some other }.validate = .error defect) ∨
    ∃ valid : ValidRequest, request.validate = .ok valid ∧ valid.card = card ∧
      { request with card := some other }.validate = .ok { valid with card := other } := by
  have hcardOf : ∀ c : Card, c.unusableField? = none → cardOf (some c) = .ok c := by
    intro c hc
    rw [cardOf, hc]
  unfold validate
  rw [hcard, hcardOf card husable, hcardOf other hother]
  cases request.user.isEmpty with
  | true => exact .inl ⟨_, rfl, rfl⟩
  | false =>
      cases currencyOf request.currency with
      | error defect => exact .inl ⟨defect, rfl, rfl⟩
      | ok currency =>
          cases addressOf request.address with
          | error defect => exact .inl ⟨defect, rfl, rfl⟩
          | ok address => exact .inr ⟨_, rfl, rfl, rfl⟩

namespace Checkout

open Placement

/-- The charge is the one thing that is said with the card. -/
theorem pay_twins (id : OrderId) (valid : ValidRequest) (total : Money) :
    Twins valid.card other (pay id valid total) (pay id { valid with card := other } total) := by
  refine .bind (.refl _) fun diverted ↦ .bind (.refl _) fun _ ↦ .bind ?_ fun _ ↦ .refl _
  exact .charge total diverted fun _ ↦ .refl _

/-- Checkouts for requests that differ in the card, both cards being usable, are twins. -/
theorem placeOrder_twins (id : OrderId) {request : OrderRequest}
    (hcard : request.card = some card) (husable : card.unusableField? = none)
    (hother : other.unusableField? = none) :
    Twins card other (placeOrder id request)
      (placeOrder id { request with card := some other }) := by
  unfold placeOrder
  rcases request.validate_withCard hcard husable hother with
    ⟨defect, hdefect, hdefect'⟩ | ⟨valid, hvalid, rfl, hvalid'⟩
  · rw [hdefect, hdefect']
    exact .refl _
  · rw [hvalid, hvalid', require_ok, require_ok]
    -- Up to the payment and after it nothing is said of the card.
    refine .bind (.refl _) fun _ ↦ .bind (.refl _) fun cart ↦ .bind (.refl _) fun _ ↦
      .bind (.refl _) fun priced ↦ .bind (.refl _) fun _ ↦ ?_
    exact .bind (pay_twins id valid priced.total) fun _ ↦ .refl _

end Checkout

end Storefront
