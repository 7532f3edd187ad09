import Storefront.Proofs.Checkout.Conversation
import Storefront.Shop.Placement

/-!
# Conversations in a shop

A shop that runs a dialogue plays it: `converse_eq_some_iff` says that the runs that are not
abandoned are the plays in which every answer, every policy, and every note is the shop's. So
whatever holds of all plays of a checkout holds of the orders that are placed in a shop, and
`place_eq_some_iff` brings it there. A run that is abandoned halts at a call,
`exists_hosts_of_abandoned`.
-/

namespace Storefront.Shop

/-- `Hosts caller abandonAt span shop events last final` says that a conversation on behalf of the
caller goes as `events` in the shop and takes the span and the shop to `last` and `final`. -/
inductive Hosts (caller : Caller) (abandonAt : Option Nat) :
    Span → Shop → List Event → Span → Shop → Prop where
  | done {span shop} : Hosts caller abandonAt span shop [] span shop
  | asked {span shop request answer next events last final} :
      shop.call caller abandonAt request = (some answer, next) →
      Hosts caller abandonAt span next events last final →
      Hosts caller abandonAt span shop (.asked ⟨request, answer⟩ :: events) last final
  | consulted {span shop events last final} :
      Hosts caller abandonAt span shop events last final →
      Hosts caller abandonAt span shop (.consulted shop.faults.divert :: events) last final
  | noted {span shop n events last final} :
      Hosts caller abandonAt (shop.note caller span n).1 (shop.note caller span n).2 events last
        final →
      Hosts caller abandonAt span shop (.noted n :: events) last final

variable {caller : Caller} {abandonAt : Option Nat} {shop final : Shop} {span last : Span}

/-- Work without limits is over when it is ready. -/
theorem fate_none (now ready : Nat) : Limits.none.fate now (some ready) = .ends ready none :=
  rfl

/-- Nothing interrupts a request that is sent without limits. -/
theorem interruption_send (shop : Shop) (hlimits : caller.limits = .none) (request : Request) :
    (shop.send caller request).1.interruption = none := by
  unfold send
  dsimp only
  rw [hlimits, fate_none]
  rfl

/-- Who cannot be abandoned waits up to the moment. -/
theorem waitOrAbandon_none_eq (shop : Shop) (moment : Nat) :
    shop.waitOrAbandon none moment = (true, shop.waitUntil moment) := by
  unfold waitOrAbandon waitUntil
  split <;> rfl

/-- Who is not abandoned while waiting waits like one who cannot be abandoned. -/
theorem waitOrAbandon_cases (shop : Shop) (abandonAt : Option Nat) (moment : Nat) :
    shop.waitOrAbandon abandonAt moment = shop.waitOrAbandon none moment ∨
      abandonAt.isSome = true ∧ (shop.waitOrAbandon abandonAt moment).1 = false := by
  unfold waitOrAbandon
  split
  · exact .inl rfl
  · cases abandonAt with
    | none => exact .inl rfl
    | some early =>
        dsimp only
        split
        · exact .inr ⟨rfl, rfl⟩
        · exact .inl rfl

/-- A call that is not abandoned is sent, waited for until it is over, and ended. -/
theorem settle_of_call {request : Request} {answer : Except CallFailure request.Accepted}
    (h : shop.call caller abandonAt request = (some answer, final)) :
    ((shop.send caller request).2.waitUntil (shop.send caller request).1.time).settle request
      (shop.send caller request).1 = (answer, final) := by
  unfold call at h
  dsimp only at h
  rcases (shop.send caller request).2.waitOrAbandon_cases abandonAt
    (shop.send caller request).1.time with hwait | ⟨-, hwait⟩
  · rw [hwait, waitOrAbandon_none_eq, if_pos rfl] at h
    cases h
    rfl
  · rw [hwait] at h
    cases h

/-- What comes of a call that is sent is an answer that a caller can get. -/
theorem settle_answers (shop : Shop) (request : Request) (sent : Sent) :
    request.Answers (shop.settle request sent).1 := by
  have hanswer : request.Answers (shop.answerUnless request sent).1 := by
    unfold answerUnless
    cases sent.interruption with
    | some reason => exact .interrupted reason
    | none => exact .replied _
  obtain ⟨span, hsettle⟩ := shop.exists_settle_eq request sent
  rw [hsettle]
  exact hanswer

/-- A call that is not abandoned is answered as a call can be. -/
theorem call_answers {request : Request} {answer : Except CallFailure request.Accepted}
    {next : Shop} (h : shop.call caller abandonAt request = (some answer, next)) :
    request.Answers answer := by
  unfold call at h
  dsimp only at h
  split at h
  · cases h
    exact settle_answers _ _ _
  · cases h

/-- A dialogue that is not abandoned is played, the shop being the one that answers. -/
theorem converse_eq_some_iff {α : Type} {d : Dialogue α} {value : α} :
    converse caller abandonAt d span shop = (some value, last, final) ↔
      ∃ events, d.Plays events value ∧ Hosts caller abandonAt span shop events last final := by
  induction d generalizing span shop with
  | done result =>
      constructor
      · intro h
        cases h
        exact ⟨[], .done _, .done⟩
      · rintro ⟨_, ⟨⟩, ⟨⟩⟩
        rfl
  | ask request next ih =>
      constructor
      · intro h
        unfold converse at h
        split at h
        · rename_i answer shop' hcall
          -- The play goes on with the answer of the shop, which is one that a caller can get.
          obtain ⟨events, hplays, hhosts⟩ := (ih answer).mp h
          exact ⟨_, .asked (call_answers hcall) hplays, .asked hcall hhosts⟩
        · cases h
      · rintro ⟨_, hplays, hhosts⟩
        cases hplays with
        | asked hanswer hplays =>
            cases hhosts with
            | asked hcall hhosts =>
                unfold converse
                rw [hcall]
                exact (ih _).mpr ⟨_, hplays, hhosts⟩
  | consult next ih =>
      constructor
      · intro h
        obtain ⟨events, hplays, hhosts⟩ := (ih shop.faults.divert).mp h
        exact ⟨_, .consulted hplays, .consulted hhosts⟩
      · rintro ⟨_, hplays, hhosts⟩
        cases hplays with
        | consulted hplays =>
            cases hhosts with
            | consulted hhosts => exact (ih _).mpr ⟨_, hplays, hhosts⟩
  | note n next ih =>
      constructor
      · intro h
        obtain ⟨events, hplays, hhosts⟩ := ih.mp h
        exact ⟨_, .noted hplays, .noted hhosts⟩
      · rintro ⟨_, hplays, hhosts⟩
        cases hplays with
        | noted hplays =>
            cases hhosts with
            | noted hhosts => exact ih.mpr ⟨_, hplays, hhosts⟩

/-- A conversation that is abandoned is hosted up to a call that is not waited for. -/
theorem exists_hosts_of_abandoned {α : Type} {d : Dialogue α}
    (h : converse caller abandonAt d span shop = (none, last, final)) :
    ∃ events pending waiting, d.Halts events pending ∧
      Hosts caller abandonAt span shop events last waiting ∧
      waiting.call caller abandonAt pending = (none, final) := by
  induction d generalizing span shop with
  | done value => cases h
  | ask request next ih =>
      unfold converse at h
      split at h
      · rename_i answer shop' hcall
        obtain ⟨events, pending, waiting, hhalts, hhosts, hlast⟩ := ih answer h
        exact ⟨_, pending, waiting, .asked (call_answers hcall) hhalts, .asked hcall hhosts, hlast⟩
      · rename_i shop' hcall
        cases h
        exact ⟨[], request, shop, .waiting, .done, hcall⟩
  | consult next ih =>
      obtain ⟨events, pending, waiting, hhalts, hhosts, hlast⟩ := ih shop.faults.divert h
      exact ⟨_, pending, waiting, .consulted hhalts, .consulted hhosts, hlast⟩
  | note n next ih =>
      obtain ⟨events, pending, waiting, hhalts, hhosts, hlast⟩ := ih h
      exact ⟨_, pending, waiting, .noted hhalts, .noted hhosts, hlast⟩

/-- `shop.Places caller abandonAt request events result final` says that a shop places an order in a
conversation that goes as `events`, and that the result and the shop at the end are these. -/
def Places (shop : Shop) (caller : Caller) (abandonAt : Option Nat) (request : OrderRequest)
    (events : List Event) (result : Except PlacementError Order) (final : Shop) : Prop :=
  (Checkout.placeOrder shop.nextOrder request).Plays events result ∧
    ∃ last closing,
      Hosts (caller.withParent (shop.openOrder caller request).1.context) abandonAt
        (shop.openOrder caller request).1 (shop.openOrder caller request).2 events last closing ∧
      final = closing.closeOrder last result

/-- An order whose placement is not abandoned is placed in a conversation. -/
theorem place_eq_some_iff {request : OrderRequest} {result : Except PlacementError Order} :
    shop.place caller abandonAt request = (some result, final) ↔
      ∃ events, shop.Places caller abandonAt request events result final := by
  unfold place Places
  dsimp only
  constructor
  · intro h
    split at h
    · cases h
    · rename_i hconverse
      cases h
      obtain ⟨events, hplays, hhosts⟩ := converse_eq_some_iff.mp hconverse
      exact ⟨events, hplays, _, _, hhosts, rfl⟩
  · rintro ⟨events, hplays, last, closing, hhosts, rfl⟩
    rw [converse_eq_some_iff.mpr ⟨events, hplays, hhosts⟩]

/-- `shop.Abandons caller abandonAt request events pending final` says that the placement of an
order is given up after `events` while it waits for a call, and that the shop is then `final`. -/
def Abandons (shop : Shop) (caller : Caller) (abandonAt : Option Nat) (request : OrderRequest)
    (events : List Event) (pending : Request) (final : Shop) : Prop :=
  (Checkout.placeOrder shop.nextOrder request).run.Halts events pending ∧
    ∃ last waiting closing,
      Hosts (caller.withParent (shop.openOrder caller request).1.context) abandonAt
        (shop.openOrder caller request).1 (shop.openOrder caller request).2 events last waiting ∧
      waiting.call (caller.withParent (shop.openOrder caller request).1.context) abandonAt
        pending = (none, closing) ∧
      final = closing.finishSpan last

/-- An order whose placement is abandoned is given up at a call. -/
theorem exists_abandons {request : OrderRequest}
    (h : shop.place caller abandonAt request = (none, final)) :
    ∃ events pending, shop.Abandons caller abandonAt request events pending final := by
  unfold place at h
  dsimp only at h
  split at h
  · rename_i last closing hconverse
    cases h
    obtain ⟨events, pending, waiting, hhalts, hhosts, hcall⟩ := exists_hosts_of_abandoned hconverse
    exact ⟨events, pending, hhalts, last, waiting, closing, hhosts, hcall, rfl⟩
  · cases h

/-- Two shops that differ only in what has been counted, measured, and logged, and in the spans. -/
structure SameBusiness (shop other : Shop) : Prop where
  faults_eq : shop.faults = other.faults
  collaborators_eq : shop.collaborators = other.collaborators
  tasks_eq : shop.tasks = other.tasks

/-- What happens before the conversation and after it is bookkeeping. -/
theorem Places.exists_hosts {request : OrderRequest} {events : List Event}
    {result : Except PlacementError Order}
    (h : shop.Places caller abandonAt request events result final) :
    ∃ span opened last closing caller, SameBusiness opened shop ∧
      Hosts caller abandonAt span opened events last closing ∧ SameBusiness final closing := by
  obtain ⟨-, last, closing, hhosts, rfl⟩ := h
  refine ⟨_, (shop.openOrder caller request).2, last, closing, _, ⟨rfl, rfl, rfl⟩, hhosts, ?_⟩
  cases result <;> exact ⟨rfl, rfl, rfl⟩

end Storefront.Shop
