import Storefront.Proofs.Http.Orders
import Storefront.Proofs.Shop.Diversion
import Storefront.Proofs.Shop.Promise
import Storefront.Proofs.Shop.Retention

/-!
# Drills

A drill is a time in which charges are diverted on purpose. `Shop.act` is what happens to a shop,
one thing at a time, and `Shop.actSparing` lets it happen to two shops of which the second is spared
each order that the first one diverts: it lets as much time pass. The two stay alike, so that after
a drill everything goes as if there had been none. The main theorem is
`diversion_leaves_no_trace`, and it is also about the answers that customers get.
-/

namespace Storefront

namespace Shop

variable {shop other : Shop}

/-- Change the collaborators in anything but the messages that were accepted, without a look at the
headers of these. -/
def change (shop : Shop) (f : Collaborators → Collaborators) : Shop :=
  let changed := f shop.collaborators.bare
  { shop with
    collaborators :=
      { changed with
        broker := { changed.broker with messages := shop.collaborators.broker.messages } } }

/-- A change has nothing to do with what is recorded. -/
theorem bare_change (shop : Shop) (f : Collaborators → Collaborators) :
    (shop.change f).bare = shop.bare.change f := by
  have hsame : f shop.bare.collaborators.bare = f shop.collaborators.bare :=
    congrArg f shop.collaborators.bare_bare
  unfold change
  rw [hsame]
  rfl

/-- What happens to a shop: an order is placed, time passes, the background is waited for, the
collaborators are changed, and charges are diverted from now on, or no longer. -/
inductive Act where
  | order (caller : Caller) (abandonAt : Option Nat) (request : OrderRequest)
  | wait (moment : Nat)
  | drain
  | change (f : Collaborators → Collaborators)
  | divert (divert : Bool)

/-- Let something happen to a shop. Only an order has a result. -/
def act (shop : Shop) : Act → Option (Except PlacementError Order) × Shop
  | .order caller abandonAt request => shop.place caller abandonAt request
  | .wait moment => (none, shop.waitUntil moment)
  | .drain => (none, shop.drain.2)
  | .change f => (none, shop.change f)
  | .divert divert => (none, shop.setDivert divert)

/-- Let time pass in place of an order. Each order that comes draws a number of its own, whatever
becomes of it, so the one for this order is not left for the next. -/
def passOver (shop : Shop) (moment : Nat) : Shop :=
  { shop with orders := shop.orders + 1 }.waitUntil moment

/-- Let something happen to two shops. If it is an order whose charge the first shop diverts, the
second one only lets as much time pass. -/
def actSparing (shops : Shop × Shop) (act : Act) : Shop × Shop :=
  let next := (shops.1.act act).2
  match act with
  | .order .. =>
      (next, if shops.1.faults.divert then shops.2.passOver next.clock else (shops.2.act act).2)
  | .wait _ | .drain | .change _ | .divert _ => (next, (shops.2.act act).2)

/-- Where the same happens to alike shops it has the same result, and they stay alike. -/
theorem Alike.act (h : shop.Alike other) (act : Act) :
    (shop.act act).1 = (other.act act).1 ∧ (shop.act act).2.Alike (other.act act).2 := by
  cases act with
  | order caller abandonAt request => exact h.place rfl abandonAt request
  | wait moment => exact ⟨rfl, h.waitUntil moment⟩
  | drain => exact ⟨rfl, h.drain.2⟩
  | change f =>
      refine ⟨rfl, ?_⟩
      show (shop.change f).bare = (other.change f).bare
      rw [bare_change, bare_change, h]
  | divert divert => exact ⟨rfl, (congrArg (setDivert · divert) h :)⟩

/-- Whatever happens to a shop, its tasks come from orders. -/
theorem IsReachable.act (h : shop.IsReachable) (act : Act) : (shop.act act).2.IsReachable := by
  cases act with
  | order caller abandonAt request => exact h.placed caller abandonAt request
  | wait moment => exact h.waited moment
  | drain => exact h.drained
  | change | divert => exact h.changed rfl

/-- A shop that is spared a diverted order ends up alike one that was not. -/
theorem place_alike_passOver (hreach : shop.IsReachable) (hdivert : shop.faults.divert = true)
    (h : shop.Alike other) (caller : Caller) (abandonAt : Option Nat) (request : OrderRequest) :
    (shop.place caller abandonAt request).2.Alike
      (other.passOver (shop.place caller abandonAt request).2.clock) := by
  have hnothing := place_comesToNothing hreach.isFree.2 hdivert caller abandonAt request
  have hcounted : { shop with orders := shop.orders + 1 }.Alike
      { other with orders := other.orders + 1 } :=
    (congrArg (fun b : Shop ↦ { b with orders := b.orders + 1 }) h :)
  exact hnothing.pauses.alike.trans (hcounted.waitUntil _)

/-- Two shops of which the second is spared diverted orders stay alike, whatever happens. -/
theorem actSparing_alike {shops : Shop × Shop} (hreach : shops.1.IsReachable)
    (h : shops.1.Alike shops.2) (act : Act) :
    (actSparing shops act).1.Alike (actSparing shops act).2 := by
  cases act with
  | order caller abandonAt request =>
      show Alike _ (if shops.1.faults.divert then _ else _)
      split
      · rename_i hdivert
        exact place_alike_passOver hreach hdivert h caller abandonAt request
      · exact (h.act (.order caller abandonAt request)).2
  | wait moment => exact (h.act (.wait moment)).2
  | drain => exact (h.act .drain).2
  | change f => exact (h.act (.change f)).2
  | divert divert => exact (h.act (.divert divert)).2

/-- They do so however much happens. -/
theorem alike_foldl_actSparing {shops : Shop × Shop} (hreach : shops.1.IsReachable)
    (h : shops.1.Alike shops.2) (acts : List Act) :
    (acts.foldl actSparing shops).1.Alike (acts.foldl actSparing shops).2 := by
  induction acts generalizing shops with
  | nil => exact h
  | cons act rest ih =>
      have hnext : (actSparing shops act).1 = (shops.1.act act).2 := by cases act <;> rfl
      refine ih ?_ (actSparing_alike hreach h act)
      rw [hnext]
      exact hreach.act act

end Shop

namespace Http

variable {shop other : Shop} {ask : Ask}

/-- Alike shops give the same answer to an order. -/
theorem answer_eq_of_alike (h : shop.Alike other) (hmethod : ask.method = "POST")
    (htarget : targetPath ask.target = "/orders") :
    (answer shop ask).1 = (answer other ask).1 := by
  rw [answer_eq_placeOrder shop hmethod htarget, answer_eq_placeOrder other hmethod htarget]
  show shared (placeOrder shop ask).1 = shared (placeOrder other ask).1
  unfold placeOrder
  cases readOrder ask with
  | error message => rfl
  | ok request =>
      have hcaller : Caller.bare ⟨extract ask.fields, .none⟩ =
          Caller.bare ⟨extract ask.fields, .none⟩ := rfl
      obtain ⟨hresult, -⟩ := h.place hcaller none request
      dsimp only
      generalize shop.place _ none request = placed at hresult ⊢
      generalize other.place _ none request = placed' at hresult ⊢
      obtain ⟨result, next⟩ := placed
      obtain ⟨result', next'⟩ := placed'
      cases hresult
      match result with
      | none | some (.ok _) | some (.error _) => rfl

/-- `Declines shop ask request answer next` says how a shop that diverts charges answers a customer
who asks for an order, and where that leaves it. -/
def Declines (shop : Shop) (ask : Ask) (request : OrderRequest) (answer : Answer) (next : Shop) :
    Prop :=
  ∃ error final,
    shop.place ⟨extract ask.fields, .none⟩ none request = (some (.error error), final) ∧
    shop.ComesToNothing ⟨extract ask.fields, .none⟩ none request (some (.error error)) final ∧
    final.IsUntouched next ∧
    answer = shared (jsonAnswer (ServiceError.placement error).status
      (ServiceError.placement error).body) ∧
    (error.step ∉ Step.beforeCharge →
      error = .paymentFailed
        (.unavailable ("connection refused: " ++ shop.collaborators.divertedTo)) ∧
      answer.status = 402)

/-- A customer whose charge would be diverted is told so. -/
theorem answer_declines (hlive : shop.IsLive) (hdivert : shop.faults.divert = true)
    (hmethod : ask.method = "POST") (htarget : targetPath ask.target = "/orders")
    {request : OrderRequest} (hread : readOrder ask = .ok request) :
    Declines shop ask request (answer shop ask).1 (answer shop ask).2 := by
  have hnothing := Shop.place_comesToNothing hlive hdivert ⟨extract ask.fields, .none⟩ none request
  obtain ⟨result, final, hplace⟩ := shop.exists_place ⟨extract ask.fields, .none⟩ request
  rw [hplace] at hnothing
  obtain ⟨error, events, rfl, ⟨-, last, closing, hhosts, -⟩, hfails⟩ := hnothing.fails result rfl
  have hanswer : placeOrder shop ask = refusal final (.placement error) := by
    rw [placeOrder, hread]
    dsimp only
    rw [hplace]
  rw [answer_eq_placeOrder shop hmethod htarget, hanswer]
  refine ⟨error, final, hplace, hnothing, refusal_keeps final _, rfl, fun hlater ↦ ?_⟩
  -- Who sets no deadline and cannot cancel is not interrupted.
  have hanswered := hhosts.isInterrupted_eq_false rfl
  obtain rfl := hfails.unreachable hlater fun call hcall _ ↦ hanswered call hcall
  exact ⟨rfl, rfl⟩

/-- Nobody is charged while charges are diverted: every order comes to nothing, and a customer is
told so. Whatever happens then, and however often charges are diverted, the shop has the stores that
it would have without the orders that came to nothing, and all that is done next has the result that
it would have. -/
theorem diversion_leaves_no_trace (shop : Shop) (hreach : shop.IsReachable) :
    (shop.faults.divert = true →
      (∀ caller abandonAt request, shop.ComesToNothing caller abandonAt request
        (shop.place caller abandonAt request).1 (shop.place caller abandonAt request).2) ∧
      ∀ ask request, ask.method = "POST" → targetPath ask.target = "/orders" →
        readOrder ask = .ok request →
        Declines shop ask request (answer shop ask).1 (answer shop ask).2) ∧
    ∀ acts : List Shop.Act,
      let shops := acts.foldl Shop.actSparing (shop, shop)
      shops.1.Alike shops.2 ∧
      shops.1.collaborators.stores = shops.2.collaborators.stores ∧
      (∀ act, (shops.1.act act).1 = (shops.2.act act).1 ∧
        (shops.1.act act).2.Alike (shops.2.act act).2) ∧
      ∀ ask, ask.method = "POST" → targetPath ask.target = "/orders" →
        (answer shops.1 ask).1 = (answer shops.2 ask).1 := by
  have hlive := hreach.isFree.2
  refine ⟨fun hdivert ↦ ⟨Shop.place_comesToNothing hlive hdivert, ?_⟩, fun acts ↦ ?_⟩
  · intro ask request hmethod htarget hread
    exact answer_declines hlive hdivert hmethod htarget hread
  · have hsame : (shop, shop).1.Alike (shop, shop).2 := rfl
    have halike := Shop.alike_foldl_actSparing hreach hsame acts
    have hstores := (congrArg (fun b : Shop ↦ b.collaborators.stores) halike :)
    exact ⟨halike, hstores, halike.act, fun ask ↦ answer_eq_of_alike halike⟩

/-- The demonstration shop while charges are diverted. -/
def demoDrill : Shop :=
  (Shop.Demo.start .standard 0 0).setDivert true

/-- An order for the full cart of the demonstration shop. -/
def demoOrder : Shop.Act :=
  .order .background none Shop.demoRequest

/-- The demonstration shop diverts two orders and says so, and a third one is then placed as if
there had been no others. -/
theorem demo_diversion_leaves_no_trace :
    let shops := [demoOrder, demoOrder, .divert false].foldl Shop.actSparing (demoDrill, demoDrill)
    demoDrill.ComesToNothing .background none Shop.demoRequest (demoDrill.act demoOrder).1
        (demoDrill.act demoOrder).2 ∧
      (answer demoDrill (orderAsk Shop.demoRequest)).1.status = 402 ∧
      shops.1.collaborators.stores = shops.2.collaborators.stores ∧
      (shops.1.act demoOrder).1 = (shops.2.act demoOrder).1 ∧
      (shops.1.act demoOrder).1.any Except.isOk = true := by
  obtain ⟨hdiverts, hlater⟩ := diversion_leaves_no_trace demoDrill (.idle rfl)
  obtain ⟨hnothing, hdeclines⟩ := hdiverts rfl
  obtain ⟨-, hstores, hacts, -⟩ := hlater [demoOrder, demoOrder, .divert false]
  refine ⟨hnothing _ _ _, ?_, hstores, (hacts demoOrder).1, by decide +kernel⟩
  have hread := readOrder_orderAsk Shop.demoRequest (by decide +kernel)
  obtain ⟨error, final, hplace, -, -, -, hunpaid⟩ := hdeclines _ _ rfl rfl hread
  have hstep : (demoDrill.place ⟨extract (orderAsk Shop.demoRequest).fields, .none⟩ none
      Shop.demoRequest).1.map (Except.mapError PlacementError.step) =
      some (.error .chargePayment) := rfl
  rw [hplace] at hstep
  have hcharge : error.step = .chargePayment := Except.error.inj (Option.some.inj hstep)
  exact (hunpaid (by rw [hcharge]; decide)).2

end Http

end Storefront
