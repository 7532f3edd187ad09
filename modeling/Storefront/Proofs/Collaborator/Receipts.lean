import Mathlib.Data.List.Nodup
import Storefront.Collaborators
import Storefront.Proofs.RetainedLog.History
import Storefront.Proofs.Text.Numeral

/-!
# Receipts

Payments, shipping, and the broker give a receipt for all that they take, and keep the newest of it
in a log. Each acts on a call at one moment, so that the calls of several callers, and whatever is
set in between, are a sequence of acts in one order or another. Whatever the sequence, the receipts
of a desk have its numbers in turn, no two of them are the same, and what is found under a receipt
is what was taken for it, as long as it is kept: `receipts_hold`. `Deals` says what one act can do,
`Register.IsKept` what follows from it for the log of a desk, and the rest is about sequences.
-/

namespace Storefront

/-! ## Acts -/

/-- A service that gives receipts. -/
inductive Desk where
  | payments
  | shipping
  | broker
  deriving DecidableEq

/-- Something that is done to collaborators: a request arrives at one of them, a message arrives at
the broker, a desk is made to fail or to work again, or it is told how much to keep. -/
inductive Act where
  | ask (request : Request)
  | send (message : Message)
  | setFails (desk : Desk) (fails : Bool)
  | setCapacity (desk : Desk) (capacity : Option Nat)

namespace Act

/-- The desk that is called for a receipt. A charge that is diverted does not arrive there. -/
def desk? : Act → Option Desk
  | .ask (.charge _ _ false) => some .payments
  | .ask (.shipOrder ..) => some .shipping
  | .send _ => some .broker
  | _ => none

/-- The act is a call of one of the desks. -/
def isCall (act : Act) : Bool :=
  act.desk?.isSome

/-- What comes back. -/
abbrev Reply : Act → Type
  | .ask request => Except TransportError request.Reply
  | .send _ => Except TransportError Receipt
  | .setFails .. => Unit
  | .setCapacity .. => Unit

end Act

/-- An act and what came back. -/
structure Dealing where
  act : Act
  reply : act.Reply

/-- What came back is a failure. -/
def Dealing.failed : Dealing → Bool
  | ⟨.ask _, .error _⟩ | ⟨.send _, .error _⟩ => true
  | _ => false

namespace Collaborators

/-- A desk is set to fail. -/
def fails (c : Collaborators) : Desk → Bool
  | .payments => c.payments.fails
  | .shipping => c.shipping.failsToShip
  | .broker => c.broker.fails

/-- A desk fails from now on, or no longer. -/
def setFails (c : Collaborators) : Desk → Bool → Collaborators
  | .payments, fails => { c with payments.fails := fails }
  | .shipping, fails => { c with shipping.failsToShip := fails }
  | .broker, fails => { c with broker.fails := fails }

/-- A desk keeps so much from now on, or everything. -/
def setCapacity (c : Collaborators) : Desk → Option Nat → Collaborators
  | .payments, capacity =>
      { c with payments.charges := c.payments.charges.setCapacity capacity }
  | .shipping, capacity =>
      { c with shipping.shipments := c.shipping.shipments.setCapacity capacity }
  | .broker, capacity =>
      { c with broker.messages := c.broker.messages.setCapacity capacity }

/-- What comes back of an act, and what changes by it. -/
def deal (c : Collaborators) : (act : Act) → act.Reply × Collaborators
  | .ask request => c.serviceAnswer request
  | .send message => c.send message false
  | .setFails desk fails => ((), c.setFails desk fails)
  | .setCapacity desk capacity => ((), c.setCapacity desk capacity)

/-- An act with what comes back of it. -/
def dealing (c : Collaborators) (act : Act) : Dealing :=
  ⟨act, (c.deal act).1⟩

/-- Some acts, one after the other, with what comes back of each. -/
def dealings : Collaborators → List Act → List Dealing
  | _, [] => []
  | c, act :: rest => c.dealing act :: (c.deal act).2.dealings rest

/-- The collaborators after some acts. -/
def afterActs : Collaborators → List Act → Collaborators
  | c, [] => c
  | c, act :: rest => (c.deal act).2.afterActs rest

/-- `c.Deals dealing next` says what an act can do. A desk takes something, pushes it to its log and
counts it; or the call fails and nothing changes; or it is about something else. -/
inductive Deals (c : Collaborators) : Dealing → Collaborators → Prop where
  | charged (amount : Money) (card : Card) {name : String}
      (hname : name = countedName "PAY" (c.payments.lastNumber + 1).toNat) :
      Deals c ⟨.ask (.charge amount card false), .ok name⟩
        { c with
          payments.charges := c.payments.charges.push (name, amount)
          payments.lastNumber := c.payments.lastNumber + 1 }
  | shipped (address : Address) (lines : List CartLine) {name : String}
      (hname : name = countedName "TRACK" (c.shipping.lastNumber + 1).toNat) :
      Deals c ⟨.ask (.shipOrder address lines), .ok name⟩
        { c with
          shipping.shipments := c.shipping.shipments.push ⟨name, address, lines⟩
          shipping.lastNumber := c.shipping.lastNumber + 1 }
  | acknowledged (message : Message) :
      Deals c ⟨.send message, .ok ⟨some 0, some c.broker.messages.total⟩⟩
        { c with broker.messages := c.broker.messages.push message }
  | unanswered (request : Request) (error : TransportError) :
      Deals c ⟨.ask request, .error error⟩ c
  | unsent (message : Message) (error : TransportError) : Deals c ⟨.send message, .error error⟩ c
  | elsewhere {request : Request} {reply : request.Reply} {next : Collaborators}
      (hstep : request.step ∉ [.chargePayment, .shipOrder]) (hpayments : next.payments = c.payments)
      (hshipping : next.shipping = c.shipping) (hbroker : next.broker = c.broker) :
      Deals c ⟨.ask request, .ok reply⟩ next
  | failing (desk : Desk) (fails : Bool) :
      Deals c ⟨.setFails desk fails, ()⟩ (c.setFails desk fails)
  | bounded (desk : Desk) (capacity : Option Nat) :
      Deals c ⟨.setCapacity desk capacity, ()⟩ (c.setCapacity desk capacity)

/-- Every act does something of that. -/
theorem deals (c : Collaborators) (act : Act) : c.Deals (c.dealing act) (c.deal act).2 := by
  -- A request that no desk hears is answered without the desks, if it is answered.
  have helsewhere : ∀ (request : Request) (reply : Except TransportError request.Reply),
      request.step ∉ [.chargePayment, .shipOrder] → c.Deals ⟨.ask request, reply⟩ c := by
    intro request reply hstep
    cases reply with
    | error error => exact .unanswered request error
    | ok reply => exact .elsewhere hstep rfl rfl rfl
  cases act with
  | ask request =>
      cases request with
      | getCart user => exact helsewhere _ _ (by simp [Request.step])
      | getProduct product => exact helsewhere _ _ (by simp [Request.step])
      | getQuote address lines => exact helsewhere _ _ (by simp [Request.step])
      | convert amount target => exact helsewhere _ _ (by simp [Request.step])
      | charge amount card diverted =>
          unfold dealing deal serviceAnswer charge Payments.charge
          cases diverted with
          | true => exact .unanswered _ _
          | false =>
              simp only [Bool.false_eq_true, if_false]
              split
              · exact .unanswered _ _
              · exact .charged amount card rfl
      | shipOrder address lines =>
          unfold dealing deal serviceAnswer Shipping.ship
          dsimp only
          split
          · exact .unanswered _ _
          · exact .shipped address lines rfl
      | emptyCart user =>
          unfold dealing deal serviceAnswer Carts.emptyCart
          dsimp only
          split
          · exact .unanswered _ _
          · exact .elsewhere (by simp [Request.step]) rfl rfl rfl
      | confirm confirmation =>
          unfold dealing deal serviceAnswer confirm Mail.send
          dsimp only
          split
          · exact .unanswered _ _
          · dsimp only
            split
            · exact .unanswered _ _
            · exact .elsewhere (by simp [Request.step]) rfl rfl rfl
  | send message =>
      unfold dealing deal send Broker.send
      simp only [Bool.false_eq_true, if_false]
      split
      · exact .unsent _ _
      · exact .acknowledged message
  | setFails desk fails => exact .failing desk fails
  | setCapacity desk capacity => exact .bounded desk capacity

/-- A failure changes nothing. -/
theorem Deals.eq_of_failed {c next : Collaborators} {dealing : Dealing}
    (h : c.Deals dealing next) (hfailed : dealing.failed = true) : next = c := by
  cases h with
  | unanswered | unsent => rfl
  | charged | shipped | acknowledged | elsewhere | failing | bounded => cases hfailed

/-- A call fails if its desk is set to fail, and only then. -/
theorem failed_dealing (c : Collaborators) {act : Act} {desk : Desk} (h : act.desk? = some desk) :
    (c.dealing act).failed = c.fails desk := by
  unfold Act.desk? at h
  split at h
  · cases h
    unfold dealing deal serviceAnswer charge Payments.charge fails
    cases c.payments.fails <;> rfl
  · cases h
    unfold dealing deal serviceAnswer Shipping.ship fails
    cases c.shipping.failsToShip <;> rfl
  · cases h
    unfold dealing deal send Broker.send fails
    cases c.broker.fails <;> rfl
  · cases h

/-- The numbers of the desks are the numbers of what they have taken. -/
structure Counts (c : Collaborators) : Prop where
  charges : c.payments.lastNumber = .ofNat c.payments.charges.total
  shipments : c.shipping.lastNumber = .ofNat c.shipping.shipments.total

/-- An act leaves the numbers right. -/
theorem Counts.deal {c next : Collaborators} {dealing : Dealing} (h : c.Counts)
    (hdeals : c.Deals dealing next) : next.Counts := by
  have hsucc : ∀ n : Nat, UInt32.ofNat n + 1 = UInt32.ofNat (n + 1) := fun n ↦
    (UInt32.ofNat_add n 1).symm
  cases hdeals with
  | charged => exact ⟨(congrArg (· + 1) h.charges).trans (hsucc _), h.shipments⟩
  | shipped => exact ⟨h.charges, (congrArg (· + 1) h.shipments).trans (hsucc _)⟩
  | acknowledged | unanswered | unsent => exact ⟨h.charges, h.shipments⟩
  | elsewhere hcall hpayments hshipping hbroker =>
      exact ⟨hpayments ▸ h.charges, hshipping ▸ h.shipments⟩
  | failing desk fails => cases desk <;> exact ⟨h.charges, h.shipments⟩
  | bounded desk capacity => cases desk <;> exact ⟨h.charges, h.shipments⟩

end Collaborators

/-! ## Registers -/

/-- How a desk registers what it takes: its log, what it has taken in a dealing, the entry for that
in the log, and the receipt for it. -/
structure Register (τ κ α : Type) where
  desk : Desk
  log : Collaborators → RetainedLog α
  taken? : Dealing → Option τ
  entry : τ → α
  receipt : τ → κ

namespace Register

/-- Charges, each a name and an amount. -/
def charges : Register (String × Money) String (String × Money) where
  desk := .payments
  log c := c.payments.charges
  taken?
    | ⟨.ask (.charge amount _ _), .ok name⟩ => some (name, amount)
    | _ => none
  entry := id
  receipt := Prod.fst

/-- Shipments. -/
def shipments : Register Shipment String Shipment where
  desk := .shipping
  log c := c.shipping.shipments
  taken?
    | ⟨.ask (.shipOrder address lines), .ok name⟩ => some ⟨name, address, lines⟩
    | _ => none
  entry := id
  receipt := Shipment.name

/-- Messages that the broker has acknowledged. -/
def messages : Register (Receipt × Message) Receipt Message where
  desk := .broker
  log c := c.broker.messages
  taken?
    | ⟨.send message, .ok receipt⟩ => some (receipt, message)
    | _ => none
  entry := Prod.snd
  receipt := Prod.fst

variable {τ κ α : Type} (r : Register τ κ α)

/-- How much the desk is told to keep. -/
def bound? : Dealing → Option (Option Nat)
  | ⟨.setCapacity desk capacity, _⟩ => if desk = r.desk then some capacity else none
  | _ => none

/-- What a dealing does to the log. -/
def operation? (dealing : Dealing) : Option (RetainedLog.Operation α) :=
  match r.taken? dealing with
  | some t => some (.push (r.entry t))
  | none => (r.bound? dealing).map .setCapacity

/-- All that was taken, in order. -/
def taken (dealings : List Dealing) : List τ :=
  dealings.filterMap r.taken?

/-- `r.IsKept number` says that a desk keeps its register. What it takes it was called for, the
receipt has the number that comes next, and the entry is pushed to the log. When it takes nothing,
its log stays as it is but for the bound. -/
structure IsKept (number : Nat → κ) : Prop where
  takes {c next : Collaborators} {dealing : Dealing} {t : τ} : c.Counts → c.Deals dealing next →
    r.taken? dealing = some t → dealing.act.desk? = some r.desk ∧
      r.receipt t = number (r.log c).total ∧ r.log next = (r.log c).push (r.entry t)
  rests {c next : Collaborators} {dealing : Dealing} : c.Deals dealing next →
    r.taken? dealing = none →
      r.log next = (r.bound? dealing).elim (r.log c) (r.log c).setCapacity

/-- The number after so many is the next one. -/
theorem toNat_succ {last : UInt32} {total : Nat} (h : last = .ofNat total) :
    (last + 1).toNat = (total + 1) % 2 ^ 32 := by
  rw [h, UInt32.toNat_add, UInt32.toNat_ofNat']
  show (total % 2 ^ 32 + 1) % 2 ^ 32 = (total + 1) % 2 ^ 32
  omega

/-- Payments keep their register. -/
theorem isKept_charges : charges.IsKept fun n ↦ countedName "PAY" ((n + 1) % 2 ^ 32) where
  takes hcounts h htaken := by
    cases h with
    | charged amount card hname =>
        cases htaken
        exact ⟨rfl, hname.trans (congrArg _ (toNat_succ hcounts.charges)), rfl⟩
    | shipped | acknowledged | unsent | failing | bounded => cases htaken
    | unanswered request error => cases request <;> cases htaken
    | @elsewhere request _ _ hstep =>
        cases request with
        | charge => exact absurd (.head _) hstep
        | _ => cases htaken
  rests h hnone := by
    cases h with
    | charged => cases hnone
    | shipped | acknowledged | unanswered | unsent => rfl
    | elsewhere _ hpayments => exact congrArg Payments.charges hpayments
    | failing desk fails => cases desk <;> rfl
    | bounded desk capacity => cases desk <;> rfl

/-- Shipping keeps its register. -/
theorem isKept_shipments : shipments.IsKept fun n ↦ countedName "TRACK" ((n + 1) % 2 ^ 32) where
  takes hcounts h htaken := by
    cases h with
    | shipped address lines hname =>
        cases htaken
        exact ⟨rfl, hname.trans (congrArg _ (toNat_succ hcounts.shipments)), rfl⟩
    | charged | acknowledged | unsent | failing | bounded => cases htaken
    | unanswered request error => cases request <;> cases htaken
    | @elsewhere request _ _ hstep =>
        cases request with
        | shipOrder => exact absurd (.tail _ (.head _)) hstep
        | _ => cases htaken
  rests h hnone := by
    cases h with
    | shipped => cases hnone
    | charged | acknowledged | unanswered | unsent => rfl
    | elsewhere _ _ hshipping => exact congrArg Shipping.shipments hshipping
    | failing desk fails => cases desk <;> rfl
    | bounded desk capacity => cases desk <;> rfl

/-- The broker keeps its register. -/
theorem isKept_messages : messages.IsKept fun n ↦ ⟨some 0, some n⟩ where
  takes hcounts h htaken := by
    cases h with
    | acknowledged message =>
        cases htaken
        exact ⟨rfl, rfl, rfl⟩
    | charged | shipped | unanswered | unsent | elsewhere | failing | bounded => cases htaken
  rests h hnone := by
    cases h with
    | acknowledged => cases hnone
    | charged | shipped | unanswered | unsent => rfl
    | elsewhere _ _ _ hbroker => exact congrArg Broker.messages hbroker
    | failing desk fails => cases desk <;> rfl
    | bounded desk capacity => cases desk <;> rfl

/-! ## Sequences of acts -/

/-- The entries that dealings push to a log are those of what was taken. -/
theorem pushed_foldl (dealings : List Dealing) (history : RetainedLog.History α) :
    ((dealings.filterMap r.operation?).foldl RetainedLog.History.after history).pushed =
      history.pushed ++ (r.taken dealings).map r.entry := by
  induction dealings generalizing history with
  | nil => exact (List.append_nil history.pushed).symm
  | cons dealing rest ih =>
      unfold taken operation? at ih ⊢
      rw [List.filterMap_cons, List.filterMap_cons]
      cases r.taken? dealing with
      | some t => simp [ih, RetainedLog.History.after]
      | none => cases r.bound? dealing <;> simp [ih, RetainedLog.History.after]

variable {r} {number : Nat → κ}

namespace IsKept

/-- A dealing does to the log what it says. -/
theorem log_eq (h : r.IsKept number) {c next : Collaborators} {dealing : Dealing}
    (hcounts : c.Counts) (hdeals : c.Deals dealing next) :
    r.log next = (r.operation? dealing).elim (r.log c) (r.log c).after := by
  unfold operation?
  cases htaken : r.taken? dealing with
  | some t => exact (h.takes hcounts hdeals htaken).2.2
  | none =>
      rw [h.rests hdeals htaken]
      cases r.bound? dealing <;> rfl

/-- After some acts the log is what the dealings make of it. -/
theorem log_afterActs (h : r.IsKept number) {c : Collaborators} (hcounts : c.Counts)
    (acts : List Act) :
    r.log (c.afterActs acts) =
      ((c.dealings acts).filterMap r.operation?).foldl RetainedLog.after (r.log c) := by
  induction acts generalizing c with
  | nil => rfl
  | cons act rest ih =>
      have hdeals := c.deals act
      show r.log ((c.deal act).2.afterActs rest) = _
      rw [ih (hcounts.deal hdeals), h.log_eq hcounts hdeals, Collaborators.dealings,
        List.filterMap_cons]
      cases r.operation? (c.dealing act) <;> rfl

/-- What is taken after some entries has the numbers that come next. -/
theorem receipt_of_taken (h : r.IsKept number) {c : Collaborators} (hcounts : c.Counts)
    (acts : List Act) {n : Nat} {t : τ} (ht : (r.taken (c.dealings acts))[n]? = some t) :
    r.receipt t = number ((r.log c).total + n) := by
  induction acts generalizing c n with
  | nil => cases ht
  | cons act rest ih =>
      have hdeals := c.deals act
      have hrest := fun {n : Nat} ↦ ih (n := n) (hcounts.deal hdeals)
      rw [Collaborators.dealings, taken, List.filterMap_cons] at ht
      cases htaken : r.taken? (c.dealing act) with
      | some first =>
          obtain ⟨-, hreceipt, hlog⟩ := h.takes hcounts hdeals htaken
          rw [htaken] at ht
          cases n with
          | zero =>
              cases ht
              exact hreceipt
          | succ n =>
              have htotal : (r.log (c.deal act).2).total = (r.log c).total + 1 := by
                rw [hlog]
                rfl
              rw [hrest ht, htotal]
              congr 1
              omega
      -- Whatever else was done has left the number of entries as it was.
      | none =>
          have htotal : (r.log (c.deal act).2).total = (r.log c).total := by
            rw [h.rests hdeals htaken]
            cases r.bound? (c.dealing act) <;> rfl
          rw [htaken] at ht
          rw [hrest ht, htotal]

/-- No more is taken than there are calls. -/
theorem length_taken_le (h : r.IsKept number) {c : Collaborators} (hcounts : c.Counts)
    (acts : List Act) : (r.taken (c.dealings acts)).length ≤ acts.countP Act.isCall := by
  induction acts generalizing c with
  | nil => exact Nat.le_refl 0
  | cons act rest ih =>
      have hdeals := c.deals act
      have hrest := ih (hcounts.deal hdeals)
      rw [Collaborators.dealings, taken, List.filterMap_cons]
      cases htaken : r.taken? (c.dealing act) with
      | some t =>
          have hcall : act.isCall = true :=
            congrArg Option.isSome (h.takes hcounts hdeals htaken).1
          rw [List.countP_cons_of_pos hcall]
          exact Nat.succ_le_succ hrest
      | none => exact hrest.trans (List.sublist_cons_self act rest).countP_le

end IsKept

/-- `r.Vouches number capacity dealings c` says what a desk that was new and had so much room
vouches for after some dealings. The log is what the dealings make of it; of all that was taken the
receipts have the numbers in turn, and no two are the same; the log counts what was taken, and its
entries are the newest of it. -/
structure Vouches (r : Register τ κ α) (number : Nat → κ) (capacity : Option Nat)
    (dealings : List Dealing) (c : Collaborators) : Prop where
  log_eq : r.log c =
    (dealings.filterMap r.operation?).foldl RetainedLog.after (.empty capacity)
  receipt_eq : ∀ n t, (r.taken dealings)[n]? = some t → r.receipt t = number n
  nodup : ((r.taken dealings).map r.receipt).Nodup
  total_eq : (r.log c).total = (r.taken dealings).length
  entries_eq : (r.log c).entries =
    ((r.taken dealings).drop ((r.log c).total - (r.log c).size)).map r.entry

/-- A desk that keeps its register vouches for it, as long as its numbers do not run out. -/
theorem IsKept.vouches {told : Nat → κ} (h : r.IsKept number) {c : Collaborators}
    (hcounts : c.Counts) {capacity : Option Nat} (hnew : r.log c = .empty capacity)
    {acts : List Act} (hfew : acts.countP Act.isCall < 2 ^ 32)
    (htold : ∀ n, n + 1 < 2 ^ 32 → number n = told n) (hinj : Function.Injective told) :
    r.Vouches told capacity (c.dealings acts) (c.afterActs acts) := by
  have hlog := h.log_afterActs hcounts acts
  rw [hnew] at hlog
  have hfollows := (RetainedLog.Follows.empty capacity).foldl
    ((c.dealings acts).filterMap r.operation?)
  rw [← hlog] at hfollows
  -- A desk never clears its log, so what was pushed is all that it has taken.
  have hpushed := (pushed_foldl r (c.dealings acts) (.start capacity [])).trans (List.nil_append _)
  have htotal := hfollows.total_eq
  rw [hpushed, List.length_map] at htotal
  have hreceipt : ∀ n t, (r.taken (c.dealings acts))[n]? = some t → r.receipt t = told n := by
    intro n t ht
    have hn : n < (r.taken (c.dealings acts)).length := (List.getElem?_eq_some_iff.mp ht).1
    have hcalls := h.length_taken_le hcounts acts
    rw [h.receipt_of_taken hcounts acts ht, hnew, ← htold n (by omega)]
    exact congrArg number (Nat.zero_add n)
  have hreceipts : (r.taken (c.dealings acts)).map r.receipt =
      (List.range (r.taken (c.dealings acts)).length).map told := by
    refine List.ext_getElem (by simp) fun n hleft hright ↦ ?_
    rw [List.length_map] at hleft
    simpa using hreceipt n _ (List.getElem?_eq_getElem hleft)
  refine ⟨hlog, hreceipt, ?_, htotal, ?_⟩
  · rw [hreceipts]
    exact List.Nodup.map hinj List.nodup_range
  · have hsuffix := List.suffix_iff_eq_drop.mp hfollows.suffix
    rw [hpushed, List.length_map, ← List.map_drop, ← htotal] at hsuffix
    exact hsuffix

/-- A thing is among the newest of different things if it comes after those that are dropped. -/
theorem mem_drop_iff {all : List τ} (hnodup : all.Nodup) {n : Nat} {t : τ} (ht : all[n]? = some t)
    (dropped : Nat) : t ∈ all.drop dropped ↔ dropped ≤ n := by
  constructor
  · intro hmem
    by_contra hgone
    have htake : t ∈ all.take dropped := by
      refine List.mem_of_getElem? (i := n) ?_
      rw [List.getElem?_take_of_lt (by omega), ht]
    exact List.disjoint_take_drop hnodup (Nat.le_refl dropped) htake hmem
  · intro hkept
    refine List.mem_of_getElem? (i := n - dropped) ?_
    rw [List.getElem?_drop, Nat.add_sub_cancel' hkept, ht]

/-- What is found among the newest of some things under the receipt of one of them is that thing if
it is among them, and nothing else. -/
theorem find?_drop [BEq κ] [LawfulBEq κ] {all : List τ} (hnodup : (all.map r.receipt).Nodup)
    {n : Nat} {t : τ} (ht : all[n]? = some t) (dropped : Nat) :
    (all.drop dropped).find? (fun u ↦ r.receipt u == r.receipt t) =
      if dropped ≤ n then some t else none := by
  have hmem := mem_drop_iff (List.Nodup.of_map _ hnodup) ht dropped
  have hsame : ∀ u ∈ all.drop dropped, r.receipt u = r.receipt t → u = t := fun u hu hreceipt ↦
    List.inj_on_of_nodup_map hnodup (List.mem_of_mem_drop hu) (List.mem_of_getElem? ht) hreceipt
  cases hfound : (all.drop dropped).find? fun u ↦ r.receipt u == r.receipt t with
  | none =>
      rw [if_neg]
      intro hkept
      exact List.find?_eq_none.mp hfound t (hmem.mpr hkept) (beq_self_eq_true _)
  | some u =>
      have hu : u ∈ all.drop dropped := List.mem_of_find?_eq_some hfound
      have hreceipt : r.receipt u = r.receipt t := by simpa using List.find?_some hfound
      obtain rfl := hsame u hu hreceipt
      rw [if_pos (hmem.mp hu)]

/-- Nothing is found under what is no receipt. -/
theorem find?_drop_of_not_mem [BEq κ] [LawfulBEq κ] {all : List τ} {receipt : κ}
    (h : receipt ∉ all.map r.receipt) (dropped : Nat) :
    (all.drop dropped).find? (fun u ↦ r.receipt u == receipt) = none :=
  List.find?_eq_none.mpr fun _ hu hreceipt ↦
    h (eq_of_beq hreceipt ▸ List.mem_map_of_mem (List.mem_of_mem_drop hu))

end Register

/-- Numbers can be told from the names that count them. -/
theorem countedName_injective (word : String) : Function.Injective (countedName word) := by
  intro m n h
  have hdigits : Text.decimalPadded 4 m = Text.decimalPadded 4 n := by
    simpa [countedName] using h
  have hread := congrArg (fun s : String ↦ Text.decimal? s.toList) hdigits
  simpa [Text.decimalPadded, Text.decimal?_padZeros] using hread

namespace Collaborators

/-- `c.Recalls dealings` says what collaborators tell of their dealings. The amount of a charge is
found under its name while the charge is kept, and so is a shipment under its name; nothing is found
under any other name. A message that is kept is the one that was acknowledged with its offset. A
call fails exactly where its desk is set to fail, and one that fails changes nothing, so it uses up
no number. -/
structure Recalls (c : Collaborators) (dealings : List Dealing) : Prop where
  amount?_eq : ∀ n name amount, (Register.charges.taken dealings)[n]? = some (name, amount) →
    c.payments.amount? name =
      if c.payments.charges.total - c.payments.charges.size ≤ n then some amount else none
  amount?_of_unknown : ∀ name, name ∉ (Register.charges.taken dealings).map Prod.fst →
    c.payments.amount? name = none
  hasShipment_eq : ∀ n shipment, (Register.shipments.taken dealings)[n]? = some shipment →
    c.shipping.hasShipment shipment.name =
      decide (c.shipping.shipments.total - c.shipping.shipments.size ≤ n)
  hasShipment_of_unknown : ∀ name,
    name ∉ (Register.shipments.taken dealings).map Shipment.name →
    c.shipping.hasShipment name = false
  message_eq : ∀ i message, c.broker.messages.entries[i]? = some message →
    let offset := c.broker.messages.total - c.broker.messages.size + i
    (Register.messages.taken dealings)[offset]? = some (⟨some 0, some offset⟩, message)
  failed_eq : ∀ act desk, act.desk? = some desk → (c.dealing act).failed = c.fails desk
  unchanged_of_failed : ∀ act, (c.dealing act).failed = true → (c.deal act).2 = c

/-- Collaborators that vouch for what they took tell it. -/
theorem recalls_of_vouches {c : Collaborators} {dealings : List Dealing} {capacity : Option Nat}
    {charge shipment : Nat → String}
    (hcharges : Register.charges.Vouches charge capacity dealings c)
    (hshipments : Register.shipments.Vouches shipment capacity dealings c)
    (hmessages : Register.messages.Vouches (fun n ↦ ⟨some 0, some n⟩) capacity dealings c) :
    c.Recalls dealings := by
  have hcharged : c.payments.charges.entries = (Register.charges.taken dealings).drop
      (c.payments.charges.total - c.payments.charges.size) :=
    hcharges.entries_eq.trans (List.map_id _)
  have hshipped : c.shipping.shipments.entries = (Register.shipments.taken dealings).drop
      (c.shipping.shipments.total - c.shipping.shipments.size) :=
    hshipments.entries_eq.trans (List.map_id _)
  refine ⟨fun n name amount ht ↦ ?_, fun name hname ↦ ?_, fun n shipment ht ↦ ?_,
    fun name hname ↦ ?_, fun i message hi ↦ ?_, fun _ _ ↦ c.failed_dealing,
    fun act ↦ (c.deals act).eq_of_failed⟩
  · unfold Payments.amount?
    rw [hcharged]
    refine (congrArg (Option.map Prod.snd) (Register.find?_drop hcharges.nodup ht _)).trans ?_
    split <;> rfl
  · unfold Payments.amount?
    rw [hcharged]
    exact congrArg (Option.map Prod.snd)
      (Register.find?_drop_of_not_mem (r := Register.charges) hname _)
  · unfold Shipping.hasShipment
    rw [hshipped, ← List.isSome_find?]
    refine (congrArg Option.isSome (Register.find?_drop hshipments.nodup ht _)).trans ?_
    split <;> simp [*]
  · unfold Shipping.hasShipment
    rw [hshipped, ← List.isSome_find?]
    exact congrArg Option.isSome
      (Register.find?_drop_of_not_mem (r := Register.shipments) hname _)
  · have hentries : c.broker.messages.entries = ((Register.messages.taken dealings).drop
        (c.broker.messages.total - c.broker.messages.size)).map Prod.snd := hmessages.entries_eq
    rw [hentries, List.getElem?_map, List.getElem?_drop] at hi
    obtain ⟨⟨receipt, _⟩, ht, rfl⟩ := Option.map_eq_some_iff.mp hi
    obtain rfl := hmessages.receipt_eq _ _ ht
    exact ht

/-- Whatever is done to new collaborators, with fewer calls than there are numbers, the desks vouch
for all that they took and tell of it what they keep. -/
theorem receipts_hold (quote : Money) (capacity : Option Nat) (acts : List Act)
    (hfew : acts.countP Act.isCall < 2 ^ 32) :
    let dealings := (new quote capacity).dealings acts
    let c := (new quote capacity).afterActs acts
    Register.charges.Vouches (fun n ↦ countedName "PAY" (n + 1)) capacity dealings c ∧
      Register.shipments.Vouches (fun n ↦ countedName "TRACK" (n + 1)) capacity dealings c ∧
      Register.messages.Vouches (fun n ↦ ⟨some 0, some n⟩) capacity dealings c ∧
      c.Recalls dealings := by
  have hcounts : (new quote capacity).Counts := ⟨rfl, rfl⟩
  have hname : ∀ (word : String) (n : Nat), n + 1 < 2 ^ 32 →
      countedName word ((n + 1) % 2 ^ 32) = countedName word (n + 1) := fun word n hn ↦
    congrArg (countedName word) (Nat.mod_eq_of_lt hn)
  have hcharges := Register.isKept_charges.vouches hcounts rfl hfew (hname "PAY")
    ((countedName_injective "PAY").comp Nat.succ_injective)
  have hshipments := Register.isKept_shipments.vouches hcounts rfl hfew (hname "TRACK")
    ((countedName_injective "TRACK").comp Nat.succ_injective)
  have hmessages := Register.isKept_messages.vouches hcounts rfl hfew (fun _ _ ↦ rfl)
    fun m n h ↦ by simpa using h
  exact ⟨hcharges, hshipments, hmessages, recalls_of_vouches hcharges hshipments hmessages⟩

/-- A charge of some dollars. -/
def demoDollars (units : Int64) : Act :=
  .ask (.charge (.ofUnits .usd units) ⟨"4111", 123, 2030, 1⟩ false)

/-- Two charges with one that is declined in between, a shipment, and two messages. In the end only
one charge and one message are kept. -/
def demoActs : List Act :=
  [demoDollars 5, .setFails .payments true, demoDollars 6, .setFails .payments false, demoDollars 7,
    .ask (.shipOrder ⟨"1 Main Street", "Springfield", "", "US", "12345"⟩ []),
    .send ⟨"orders", "1", "first", .empty⟩, .send ⟨"orders", "2", "second", .empty⟩,
    .setCapacity .payments (some 1), .setCapacity .broker (some 1)]

/-- The declined charge has used up no name, the oldest charge is forgotten, and the message that is
kept is the second one. -/
theorem demo_receipts_hold :
    demoActs.countP Act.isCall < 2 ^ 32 ∧
      let dealings := (new (.ofUnits .usd 9) none).dealings demoActs
      let c := (new (.ofUnits .usd 9) none).afterActs demoActs
      c.payments.amount? "PAY-0001" = none ∧
      c.payments.amount? "PAY-0002" = some (.ofUnits .usd 7) ∧
      c.payments.amount? "PAY-0003" = none ∧ c.shipping.hasShipment "TRACK-0001" = true ∧
      c.broker.messages.entries = [⟨"orders", "2", "second", .empty⟩] ∧
      (Register.messages.taken dealings)[1]? =
        some (⟨some 0, some 1⟩, ⟨"orders", "2", "second", .empty⟩) := by
  have hfew : demoActs.countP Act.isCall < 2 ^ 32 := by decide
  obtain ⟨-, -, -, hrecalls⟩ := receipts_hold (.ofUnits .usd 9) none demoActs hfew
  refine ⟨hfew, ?_, ?_, ?_, ?_, rfl, ?_⟩
  · exact hrecalls.amount?_eq 0 "PAY-0001" _ rfl
  · exact hrecalls.amount?_eq 1 "PAY-0002" _ rfl
  · exact hrecalls.amount?_of_unknown "PAY-0003" (by decide)
  · exact hrecalls.hasShipment_eq 0 _ rfl
  · exact hrecalls.message_eq 0 _ rfl

end Collaborators

end Storefront
