import Mathlib.Algebra.BigOperators.Group.List.Basic
import Mathlib.Algebra.Order.Group.Multiset
import Storefront.Shop.Background

/-!
# What the background does

Work in the background sends what tasks owe and touches nothing else. A task owes errands: a
confirmation, or a number of announcements of one order. `Sends` says that between two moments no
more was sent than was owed before and is not owed after. A single answer sends what it answers,
`sends_answer_confirm` for a confirmation and `sends_send` for a message.
-/

namespace Storefront

/-- Something that the background still has to send. -/
inductive Errand where
  | confirm (confirmation : Confirmation)
  | announce (key : String)

/-- What a task owes. An announcement that waits for an answer has its message already. -/
def Task.owed : Task → Multiset Errand
  | .confirmation _ c _ => {.confirm c}
  | .announcement _ order copies none => .replicate copies (.announce order.id.text)
  | .announcement _ order copies (some sent) =>
      {.announce sent.2.key} + .replicate (copies - 1) (.announce order.id.text)

/-- What tasks owe together. -/
def owedBy (tasks : List Task) : Multiset Errand :=
  (tasks.map Task.owed).sum

@[simp] theorem owedBy_nil : owedBy [] = 0 := rfl

@[simp] theorem owedBy_cons (task : Task) (tasks : List Task) :
    owedBy (task :: tasks) = task.owed + owedBy tasks :=
  List.sum_cons

@[simp] theorem owedBy_append (first rest : List Task) :
    owedBy (first ++ rest) = owedBy first + owedBy rest := by
  rw [owedBy, List.map_append, List.sum_append]
  rfl

/-- The order of the tasks does not matter. -/
theorem owedBy_perm {tasks others : List Task} (h : tasks.Perm others) :
    owedBy tasks = owedBy others :=
  (h.map Task.owed).sum_eq

namespace Collaborators

/-- The collaborators without the confirmations and messages that were sent. -/
def stores (c : Collaborators) : Collaborators :=
  { c with mail := .empty none, broker := .empty none }

/-- `c.Sends owed later left` says that between two moments confirmations and messages have been
sent, and that they and what is left were owed before. -/
def Sends (c : Collaborators) (owed : Multiset Errand) (later : Collaborators)
    (left : Multiset Errand) : Prop :=
  ∃ (confirmations : List Confirmation) (messages : List Message),
    later.mail.sent = confirmations.foldl RetainedLog.push c.mail.sent ∧
    later.broker.messages = messages.foldl RetainedLog.push c.broker.messages ∧
    ↑(confirmations.map Errand.confirm) + ↑(messages.map fun m ↦ Errand.announce m.key) + left ≤
      owed

namespace Sends

variable {c later last : Collaborators} {owed left rest extra : Multiset Errand}

/-- At one moment nothing is sent. -/
theorem refl (c : Collaborators) (owed : Multiset Errand) : c.Sends owed c owed :=
  ⟨[], [], rfl, rfl, by simp⟩

/-- What is sent in two stretches was owed at the start. -/
theorem trans (hfirst : c.Sends owed later left) (hsecond : later.Sends left last rest) :
    c.Sends owed last rest := by
  obtain ⟨confirmations, messages, hmail, hbroker, howed⟩ := hfirst
  obtain ⟨confirmations', messages', hmail', hbroker', hleft⟩ := hsecond
  refine ⟨confirmations ++ confirmations', messages ++ messages', ?_, ?_, ?_⟩
  · rw [hmail', hmail, List.foldl_append]
  · rw [hbroker', hbroker, List.foldl_append]
  · rw [List.map_append, List.map_append, ← Multiset.coe_add, ← Multiset.coe_add]
    calc
      _ = ↑(confirmations.map Errand.confirm) +
            ↑(messages.map fun m ↦ Errand.announce m.key) +
          (↑(confirmations'.map Errand.confirm) +
            ↑(messages'.map fun m ↦ Errand.announce m.key) + rest) := by ac_rfl
      _ ≤ _ := add_le_add_right hleft _
      _ ≤ owed := howed

/-- What is owed besides stays owed. -/
theorem frame (h : c.Sends owed later left) (extra : Multiset Errand) :
    c.Sends (owed + extra) later (left + extra) := by
  obtain ⟨confirmations, messages, hmail, hbroker, howed⟩ := h
  refine ⟨confirmations, messages, hmail, hbroker, ?_⟩
  rw [← add_assoc]
  exact add_le_add_left howed extra

/-- Nothing need be sent, and what was owed may be forgotten. -/
theorem nothing (c : Collaborators) (owed : Multiset Errand) : c.Sends owed c 0 :=
  ⟨[], [], rfl, rfl, Multiset.zero_le owed⟩

/-- Where nothing is owed nothing is sent. -/
theorem eq_of_owed_zero (h : c.Sends 0 later left) :
    later.mail.sent = c.mail.sent ∧ later.broker.messages = c.broker.messages := by
  obtain ⟨confirmations, messages, hmail, hbroker, howed⟩ := h
  have hcard := congrArg Multiset.card (Multiset.le_zero.mp howed)
  simp only [Multiset.card_add, Multiset.coe_card, List.length_map, Multiset.card_zero] at hcard
  have hconfirmations : confirmations.length = 0 := by omega
  have hmessages : messages.length = 0 := by omega
  rw [List.length_eq_zero_iff] at hconfirmations hmessages
  rw [hconfirmations] at hmail
  rw [hmessages] at hbroker
  exact ⟨hmail, hbroker⟩

end Sends

/-- A confirmation is sent at most once, whoever answers. -/
theorem sends_answer_confirm (c : Collaborators) (confirmation : Confirmation) (isScripted : Bool) :
    (c.answer (.confirm confirmation) isScripted).2.stores = c.stores ∧
      c.Sends {.confirm confirmation} (c.answer (.confirm confirmation) isScripted).2 0 := by
  unfold answer
  split
  · exact ⟨rfl, .nothing c _⟩
  · unfold serviceAnswer confirm
    dsimp only
    split
    · exact ⟨rfl, .nothing c _⟩
    · unfold Mail.send
      split
      · exact ⟨rfl, .nothing c _⟩
      · exact ⟨rfl, [confirmation], [], rfl, rfl, by simp⟩

/-- A message is sent at most once, whoever answers. -/
theorem sends_send (c : Collaborators) (message : Message) (isScripted : Bool) :
    (c.send message isScripted).2.stores = c.stores ∧
      c.Sends {.announce message.key} (c.send message isScripted).2 0 := by
  unfold send
  split
  · exact ⟨rfl, .nothing c _⟩
  · unfold Broker.send
    dsimp only
    split
    · exact ⟨rfl, .nothing c _⟩
    · exact ⟨rfl, [], [message], rfl, rfl, by simp⟩

end Collaborators

end Storefront
