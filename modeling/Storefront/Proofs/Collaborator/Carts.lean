import Mathlib.Algebra.GroupWithZero.Nat
import Mathlib.Algebra.Order.BigOperators.Group.List
import Mathlib.Algebra.Order.Group.Nat
import Mathlib.Data.List.Induction
import Mathlib.Data.List.Nodup
import Storefront.Proofs.Shop.Interleaving

/-!
# What is in a cart

Carts are changed by whoever calls the service and by whoever puts something into them or makes the
service fail, in one order or another. Whatever the order, the cart of a user is what was put into
it since it was last removed, `lines_after`: each product once, in the order in which products first
came, with all that was put of it. What an operation does to one cart is `lines_perform`; what lines
that are put one by one come to is `tallies_filled`. The main theorem is `carts_are_tallies`.
-/

namespace Storefront.Carts

/-! ## Operations -/

/-- Something that is done to carts: a line is put into one, the service is called to read or to
empty one, one is removed without a call, or the service is made to fail or to work again. -/
inductive Operation where
  | add (user : UserId) (line : CartLine)
  | getCart (user : UserId)
  | emptyCart (user : UserId)
  | clear (user : UserId)
  | failToRead (fails : Bool)
  | failToEmpty (fails : Bool)

namespace Operation

/-- Whose cart it is about. -/
def user? : Operation → Option UserId
  | add user _ | getCart user | emptyCart user | clear user => some user
  | failToRead _ | failToEmpty _ => none

/-- What comes back. -/
abbrev Reply : Operation → Type
  | getCart _ => Except TransportError CartReply
  | emptyCart _ => Except TransportError Unit
  | add .. | clear _ | failToRead _ | failToEmpty _ => Unit

end Operation

/-- An operation and what came back. -/
structure Deed where
  operation : Operation
  reply : operation.Reply

namespace Deed

/-- What came back is a failure. -/
def failed : Deed → Bool
  | ⟨.getCart _, .error _⟩ | ⟨.emptyCart _, .error _⟩ => true
  | _ => false

/-- The cart of a user was removed. -/
def removes (user : UserId) : Deed → Bool
  | ⟨.emptyCart other, .ok _⟩ | ⟨.clear other, _⟩ => other = user
  | _ => false

/-- The line that was put into the cart of a user. -/
def addition? (user : UserId) : Deed → Option CartLine
  | ⟨.add other line, _⟩ => if other = user then some line else none
  | _ => none

end Deed

/-- What comes back of an operation, and what changes by it. -/
def perform (c : Carts) : (operation : Operation) → operation.Reply × Carts
  | .add user line => ((), c.add user line)
  | .getCart user => (c.read user, c)
  | .emptyCart user => c.emptyCart user
  | .clear user => ((), c.clear user)
  | .failToRead fails => ((), { c with failsToRead := fails })
  | .failToEmpty fails => ((), { c with failsToEmpty := fails })

/-- An operation with what comes back of it. -/
def deed (c : Carts) (operation : Operation) : Deed :=
  ⟨operation, (c.perform operation).1⟩

/-- Some operations, one after the other, with what comes back of each. -/
def deeds : Carts → List Operation → List Deed
  | _, [] => []
  | c, operation :: rest => c.deed operation :: (c.perform operation).2.deeds rest

/-- The carts after some operations. -/
def after : Carts → List Operation → Carts
  | c, [] => c
  | c, operation :: rest => (c.perform operation).2.after rest

/-- What was put into the cart of a user since it was last removed. -/
def addedSince (user : UserId) (deeds : List Deed) : List CartLine :=
  ((deeds.reverse.takeWhile fun deed ↦ !deed.removes user).reverse).filterMap (Deed.addition? user)

/-- The service is set to fail in an operation. -/
def fails (c : Carts) : Operation → Bool
  | .getCart _ => c.failsToRead
  | .emptyCart _ => c.failsToEmpty
  | .add .. | .clear _ | .failToRead _ | .failToEmpty _ => false

/-- An operation fails where the service is set to, and only there. -/
theorem failed_deed (c : Carts) (operation : Operation) :
    (c.deed operation).failed = c.fails operation := by
  cases operation with
  | getCart user =>
      unfold deed perform read fails
      cases c.failsToRead <;> rfl
  | emptyCart user =>
      unfold deed perform emptyCart fails
      cases c.failsToEmpty <;> rfl
  | add | clear | failToRead | failToEmpty => rfl

/-- A failure changes nothing. -/
theorem perform_of_failed {c : Carts} {operation : Operation}
    (h : (c.deed operation).failed = true) : (c.perform operation).2 = c := by
  rw [failed_deed] at h
  cases operation with
  | getCart user => rfl
  | emptyCart user =>
      unfold perform emptyCart
      exact congrArg Prod.snd (if_pos h)
  | add | clear | failToRead | failToEmpty => cases h

/-- What an operation does to the cart of a user. -/
theorem lines_perform (c : Carts) (operation : Operation) (user : UserId) :
    (c.perform operation).2.lines user =
      if (c.deed operation).removes user then []
      else filled (c.lines user) ((c.deed operation).addition? user).toList := by
  cases operation with
  | add other line =>
      show (c.add other line).lines user = _
      rw [lines_add]
      by_cases h : other = user
      · simp [deed, Deed.removes, Deed.addition?, h, filled]
      · simp [deed, Deed.removes, Deed.addition?, h, filled]
  | clear other =>
      show (c.clear other).lines user = _
      rw [lines_clear]
      by_cases h : other = user
      · simp [deed, Deed.removes, h]
      · simp [deed, Deed.removes, Deed.addition?, h, filled]
  | emptyCart other =>
      unfold perform deed perform emptyCart
      cases c.failsToEmpty with
      | true => rfl
      | false =>
          show (c.clear other).lines user = _
          rw [lines_clear]
          by_cases h : other = user
          · simp [Deed.removes, h]
          · simp [Deed.removes, Deed.addition?, h, filled]
  | getCart other =>
      unfold deed perform read
      cases c.failsToRead <;> rfl
  | failToRead | failToEmpty => rfl

/-- An operation that is about nobody, or about somebody else, leaves the cart of a user alone. -/
theorem lines_perform_of_ne {c : Carts} {operation : Operation} {user : UserId}
    (h : operation.user? ≠ some user) : (c.perform operation).2.lines user = c.lines user := by
  have hne : ∀ other, operation.user? = some other → ¬other = user := by
    rintro other hother rfl
    exact h hother
  cases operation with
  | add other line => exact (lines_add ..).trans (if_neg (hne other rfl))
  | clear other => exact (lines_clear ..).trans (if_neg (hne other rfl))
  | emptyCart other =>
      unfold perform emptyCart
      split
      · rfl
      · exact (lines_clear ..).trans (if_neg (hne other rfl))
  | getCart | failToRead | failToEmpty => rfl

/-- After one more operation its addition has come too, unless it has removed the cart. -/
theorem addedSince_concat (user : UserId) (deeds : List Deed) (deed : Deed) :
    addedSince user (deeds ++ [deed]) =
      if deed.removes user then []
      else addedSince user deeds ++ (deed.addition? user).toList := by
  unfold addedSince
  rw [List.reverse_concat, List.takeWhile_cons]
  cases deed.removes user with
  | true => rfl
  | false =>
      simp only [Bool.not_false, if_true, List.reverse_cons, List.filterMap_append,
        Bool.false_eq_true, if_false]
      rfl

/-- One more operation is done to what the others have left. -/
theorem after_concat (c : Carts) (operations : List Operation) (operation : Operation) :
    c.after (operations ++ [operation]) = ((c.after operations).perform operation).2 ∧
      c.deeds (operations ++ [operation]) =
        c.deeds operations ++ [(c.after operations).deed operation] := by
  induction operations generalizing c with
  | nil => exact ⟨rfl, rfl⟩
  | cons first rest ih =>
      obtain ⟨hafter, hdeeds⟩ := ih (c.perform first).2
      exact ⟨hafter, congrArg (c.deed first :: ·) hdeeds⟩

/-- The cart of a user is what was put into it since it was last removed. -/
theorem lines_after (operations : List Operation) (user : UserId) :
    (empty.after operations).lines user =
      filled [] (addedSince user (empty.deeds operations)) := by
  induction operations using List.reverseRecOn with
  | nil => rfl
  | append_singleton operations operation ih =>
      obtain ⟨hafter, hdeeds⟩ := empty.after_concat operations operation
      rw [hafter, hdeeds, lines_perform, addedSince_concat, ih]
      split
      · rfl
      · exact List.foldl_append.symm

/-! ## Tallies -/

/-- How much of a product was put into a cart, all in all. -/
def amountOf (product : ProductId) (added : List CartLine) : Nat :=
  ((added.filter fun line ↦ line.product = product).map fun line ↦ line.quantity.toNat).sum

/-- No product makes up more than all that was put into the cart. -/
theorem amountOf_le (product : ProductId) (added : List CartLine) :
    amountOf product added ≤ (added.map fun line ↦ line.quantity.toNat).sum :=
  (List.filter_sublist.map _).sum_le_sum fun _ _ ↦ Nat.zero_le _

/-- `Tallies lines added` says that lines are what was put into a cart: each product once, in the
order in which products first came, with all that was put of it. -/
structure Tallies (lines added : List CartLine) : Prop where
  products : lines.map CartLine.product = (added.map CartLine.product).eraseDups
  nodup : (lines.map CartLine.product).Nodup
  quantity : ∀ line ∈ lines, line.quantity.toNat = amountOf line.product added

/-- The products of a cart into which a line is put. -/
theorem products_addLine (line : CartLine) (lines : List CartLine) :
    (addLine line lines).map CartLine.product =
      if line.product ∈ lines.map CartLine.product then lines.map CartLine.product
      else lines.map CartLine.product ++ [line.product] := by
  induction lines with
  | nil => rfl
  | cons l rest ih =>
      unfold addLine
      by_cases hsame : l.product = line.product
      · rw [if_pos hsame, if_pos (by simp [hsame])]
        rfl
      · rw [if_neg hsame, List.map_cons, ih]
        by_cases hmem : line.product ∈ rest.map CartLine.product
        · rw [if_pos hmem, List.map_cons, if_pos (List.mem_cons_of_mem _ hmem)]
        · rw [if_neg hmem, List.map_cons, if_neg]
          · rfl
          · intro h
            rcases List.mem_cons.mp h with h | h
            · exact hsame h.symm
            · exact hmem h

/-- The products of a cart are those that were put into it, as they first came. -/
theorem products_filled (added : List CartLine) :
    (filled [] added).map CartLine.product = (added.map CartLine.product).eraseDups := by
  induction added using List.reverseRecOn with
  | nil => rfl
  | append_singleton added line ih =>
      have hlast : filled [] (added ++ [line]) = addLine line (filled [] added) :=
        List.foldl_append
      rw [hlast, products_addLine, ih, List.map_append, List.eraseDups_append]
      by_cases hmem : line.product ∈ added.map CartLine.product
      · have hknown : [line.product].removeAll (added.map CartLine.product) = [] :=
          List.filter_cons_of_neg (by simpa using hmem)
        rw [if_pos (List.mem_eraseDups.mpr hmem), List.map_singleton, hknown, List.eraseDups_nil,
          List.append_nil]
      · have hnew : [line.product].removeAll (added.map CartLine.product) = [line.product] :=
          List.filter_cons_of_pos (by simpa using hmem)
        rw [if_neg fun h ↦ hmem (List.mem_eraseDups.mp h), List.map_singleton, hnew]
        rfl

/-- There is nothing in lines of a product that none of them has. -/
theorem quantityOf_of_not_mem {product : ProductId} {lines : List CartLine}
    (h : product ∉ lines.map CartLine.product) : quantityOf product lines = 0 := by
  induction lines with
  | nil => rfl
  | cons l rest ih =>
      obtain ⟨hhead, hrest⟩ := not_or.mp fun hmem ↦ h (List.mem_cons.mpr hmem)
      rw [quantityOf_cons, if_neg (Ne.symm hhead), ih hrest]
      rfl

/-- A line that has its product for itself has all the quantity of it. -/
theorem quantityOf_of_mem {lines : List CartLine} (h : (lines.map CartLine.product).Nodup)
    {line : CartLine} (hline : line ∈ lines) : quantityOf line.product lines = line.quantity := by
  induction lines with
  | nil => cases hline
  | cons l rest ih =>
      obtain ⟨hfresh, hrest⟩ := List.nodup_cons.mp h
      rcases List.mem_cons.mp hline with rfl | hline
      · rw [quantityOf_cons, if_pos rfl, quantityOf_of_not_mem hfresh, UInt32.add_zero]
      · have hne : l.product ≠ line.product := by
          intro hsame
          exact hfresh (hsame ▸ List.mem_map_of_mem hline)
        rw [quantityOf_cons, if_neg hne, ih hrest hline, UInt32.zero_add]

/-- The quantity of a product in lines is the amount of it, as far as that fits in a word. -/
theorem toNat_quantityOf (product : ProductId) (added : List CartLine) :
    (quantityOf product added).toNat = amountOf product added % 2 ^ 32 := by
  induction added with
  | nil => rfl
  | cons line rest ih =>
      rw [quantityOf_cons, UInt32.toNat_add, ih]
      by_cases h : line.product = product
      · have hamount : amountOf product (line :: rest) =
            line.quantity.toNat + amountOf product rest := by
          simp [amountOf, h]
        rw [if_pos h, hamount, Nat.add_mod_mod]
      · have hamount : amountOf product (line :: rest) = amountOf product rest := by
          simp [amountOf, h]
        rw [if_neg h, hamount]
        show (0 + _ % _) % _ = _
        rw [Nat.zero_add, Nat.mod_mod]

/-- No product is twice among those that came first. -/
theorem nodup_products (added : List CartLine) :
    ((filled [] added).map CartLine.product).Nodup := by
  induction added using List.reverseRecOn with
  | nil => exact List.nodup_nil
  | append_singleton added line ih =>
      have hlast : filled [] (added ++ [line]) = addLine line (filled [] added) :=
        List.foldl_append
      rw [hlast, products_addLine]
      split
      · exact ih
      · rename_i hfresh
        exact List.nodup_append_comm.mp (List.nodup_cons.mpr ⟨hfresh, ih⟩)

/-- Lines that are put into an empty cart one by one are what was put into it, as long as no
quantity grows beyond its word. -/
theorem tallies_filled {added : List CartLine}
    (h : ∀ product, amountOf product added < 2 ^ 32) : Tallies (filled [] added) added where
  products := products_filled added
  nodup := nodup_products added
  quantity line hline := by
    have hquantity := quantityOf_filled line.product [] added
    rw [quantityOf_of_mem (nodup_products added) hline, quantityOf_nil, UInt32.zero_add]
      at hquantity
    rw [hquantity, toNat_quantityOf, Nat.mod_eq_of_lt (h line.product)]

/-- `c.AreTallies deeds` says what carts are after some deeds. A cart that is read is the tally of
what was put into it since it was last removed, as long as its quantities fit in their words. A call
fails where the service is set to fail, and one that fails changes nothing; reading changes nothing
in any case; and what is done to somebody else's cart, or to none, leaves a cart as it is. -/
structure AreTallies (c : Carts) (deeds : List Deed) : Prop where
  read_eq : ∀ user reply, c.read user = .ok reply →
    (∀ product, amountOf product (addedSince user deeds) < 2 ^ 32) →
      reply.user = user ∧ Tallies reply.lines (addedSince user deeds)
  failed_eq : ∀ operation, (c.deed operation).failed = c.fails operation
  unchanged_of_failed : ∀ operation, (c.deed operation).failed = true →
    (c.perform operation).2 = c
  unchanged_of_read : ∀ user, (c.perform (.getCart user)).2 = c
  others : ∀ operation user, operation.user? ≠ some user →
    (c.perform operation).2.lines user = c.lines user

/-- Whatever is done to carts, each is the tally of what was put into it. -/
theorem carts_are_tallies (operations : List Operation) :
    (empty.after operations).AreTallies (empty.deeds operations) where
  read_eq user reply hreply hfits := by
    unfold read at hreply
    split at hreply
    · cases hreply
    · cases hreply
      refine ⟨rfl, ?_⟩
      show Tallies ((empty.after operations).lines user) _
      rw [lines_after]
      exact tallies_filled hfits
  failed_eq := failed_deed _
  unchanged_of_failed _ := perform_of_failed
  unchanged_of_read _ := rfl
  others _ _ := lines_perform_of_ne

/-- A user. -/
def demoUser : UserId := ⟨"ann"⟩

/-- What is done to carts: two products for one user and one for another, a call that fails to empty
the cart of the first, and some more of a product that is in it. -/
def demoOperations : List Operation :=
  [.add ⟨"bob"⟩ ⟨⟨"mug"⟩, 7⟩, .add demoUser ⟨⟨"pen"⟩, 9⟩, .clear demoUser,
    .add demoUser ⟨⟨"mug"⟩, 1⟩, .add demoUser ⟨⟨"pen"⟩, 2⟩, .failToEmpty true,
    .emptyCart demoUser, .add demoUser ⟨⟨"mug"⟩, 3⟩]

/-- What was put into the cart before it was removed is gone; what came after it is there, with the
quantities of both mugs in the first line. -/
theorem demo_carts_are_tallies :
    let c := empty.after demoOperations
    let added := addedSince demoUser (empty.deeds demoOperations)
    c.read demoUser = .ok ⟨demoUser, [⟨⟨"mug"⟩, 4⟩, ⟨⟨"pen"⟩, 2⟩]⟩ ∧
      (∀ product, amountOf product added < 2 ^ 32) ∧
      Tallies [⟨⟨"mug"⟩, 4⟩, ⟨⟨"pen"⟩, 2⟩] added ∧ amountOf ⟨"mug"⟩ added = 4 ∧
      (c.deed (.emptyCart demoUser)).failed = true ∧
      (c.perform (.emptyCart demoUser)).2 = c ∧
      (c.perform (.clear ⟨"bob"⟩)).2.lines demoUser = c.lines demoUser := by
  intro c added
  have htallies := carts_are_tallies demoOperations
  have hread : c.read demoUser = .ok ⟨demoUser, [⟨⟨"mug"⟩, 4⟩, ⟨⟨"pen"⟩, 2⟩]⟩ := by decide
  have hadded : added = [⟨⟨"mug"⟩, 1⟩, ⟨⟨"pen"⟩, 2⟩, ⟨⟨"mug"⟩, 3⟩] := by decide
  have hfits : ∀ product, amountOf product added < 2 ^ 32 := by
    intro product
    refine Nat.lt_of_le_of_lt (amountOf_le product added) ?_
    rw [hadded]
    decide
  have hfailed : (c.deed (.emptyCart demoUser)).failed = true := by decide
  exact ⟨hread, hfits, (htallies.read_eq demoUser _ hread hfits).2, by rw [hadded]; decide,
    hfailed, htallies.unchanged_of_failed _ hfailed, htallies.others _ _ (by decide)⟩

end Storefront.Carts
