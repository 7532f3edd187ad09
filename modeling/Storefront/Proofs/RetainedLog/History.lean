import Mathlib.Data.List.DropRight
import Storefront.Proofs.RetainedLog

/-!
# What a log keeps of its history

While entries are pushed, a log may be given more room or less, and it may be cleared. Whatever is
done to it, it keeps a suffix of what was pushed since it was made or last cleared, and exactly the
newest entries if the room was the same all the while: `keeps_newest`. Nothing that was dropped
comes back, `entries_suffix_foldl`.
-/

namespace Storefront

namespace RetainedLog

variable {α : Type}

/-- What is done to a log. -/
inductive Operation (α : Type) where
  | push (entry : α)
  | setCapacity (capacity : Option Nat)
  | clear

/-- The log that an operation leaves. -/
def after (log : RetainedLog α) : Operation α → RetainedLog α
  | .push entry => log.push entry
  | .setCapacity capacity => log.setCapacity capacity
  | .clear => log.clear

/-- What happened since a log was made or last cleared: the entries that were pushed, oldest first,
the capacity it has now and those it had earlier. -/
structure History (α : Type) where
  pushed : List α
  capacity : Option Nat
  earlier : List (Option Nat)

namespace History

/-- Nothing happened so far, except that these entries are there. -/
def start (capacity : Option Nat) (entries : List α) : History α :=
  ⟨entries, capacity, []⟩

/-- What happened once an operation is done. -/
def after (history : History α) : Operation α → History α
  | .push entry => { history with pushed := history.pushed ++ [entry] }
  | .setCapacity capacity =>
      { history with capacity := capacity, earlier := history.capacity :: history.earlier }
  | .clear => start history.capacity []

/-- The capacity was this one all the while. -/
def AlwaysHad (history : History α) (capacity : Option Nat) : Prop :=
  ∀ had ∈ history.capacity :: history.earlier, had = capacity

end History

/-! ## Dropping the oldest -/

/-- Where there is room for all entries, all are among the newest. -/
theorem newest_of_fits {capacity : Option Nat} {entries : List α}
    (h : ∀ c, capacity = some c → entries.length ≤ c) : newest capacity entries = entries := by
  cases capacity with
  | none => rfl
  | some c =>
      show entries.drop (entries.length - c) = entries
      rw [Nat.sub_eq_zero_of_le (h c rfl), List.drop_zero]

/-- Nothing is newest where there is nothing. -/
theorem newest_nil (capacity : Option Nat) : newest capacity ([] : List α) = [] :=
  newest_of_fits fun c _ => Nat.zero_le c

/-- The newest of what is pushed can be told from the newest of what was there. -/
theorem newest_push (capacity : Option Nat) (entries : List α) (entry : α) :
    newest capacity (newest capacity entries ++ [entry]) =
      newest capacity (entries ++ [entry]) := by
  cases capacity with
  | none => rfl
  | some c => exact newest_append_newest c entries [entry]

/-- What is newest is so again. -/
theorem newest_newest (capacity : Option Nat) (entries : List α) :
    newest capacity (newest capacity entries) = newest capacity entries :=
  newest_of_fits fun _ hc => length_newest_le hc entries

/-- The newest entries are the last ones, as many as there are or as there is room for. -/
theorem newest_eq_rtake (capacity : Nat) (entries : List α) :
    newest (some capacity) entries = entries.rtake (min entries.length capacity) := by
  show entries.drop _ = entries.drop _
  congr 1
  omega

/-- Nothing that was dropped comes back: what a log has at the end is a suffix of what it had and of
what was pushed in the meantime. -/
theorem entries_suffix_foldl (log : RetainedLog α) (history : History α)
    (h : log.entries <:+ history.pushed) (operations : List (Operation α)) :
    (operations.foldl after log).entries <:+ (operations.foldl History.after history).pushed := by
  induction operations generalizing log history with
  | nil => exact h
  | cons operation rest ih =>
      refine ih (log.after operation) (history.after operation) ?_
      cases operation with
      | push entry =>
          refine (newest_suffix log.capacity _).trans ?_
          obtain ⟨dropped, hpushed⟩ := h
          exact ⟨dropped, by rw [← List.append_assoc, hpushed]; rfl⟩
      | setCapacity capacity => exact (newest_suffix capacity log.entries).trans h
      | clear => exact List.suffix_rfl

/-! ## What is kept -/

/-- `log.Follows history` is what every operation preserves: the log has the capacity of its
history, counts all that was pushed and keeps a suffix of it for which there is room, which is the
newest entries if the capacity was the same all the while. -/
structure Follows (log : RetainedLog α) (history : History α) : Prop where
  capacity_eq : log.capacity = history.capacity
  total_eq : log.total = history.pushed.length
  suffix : log.entries <:+ history.pushed
  size_le_capacity : ∀ c, log.capacity = some c → log.size ≤ c
  constant : ∀ capacity, history.AlwaysHad capacity → log.entries = newest capacity history.pushed

/-- `log.Keeps history` says what a log keeps of its history. It counts the entries that were
pushed, and of these it keeps a suffix that there is room for: all of them, or exactly the newest,
if the capacity was the same all the while. More room changes nothing else, less room drops the
oldest, as many as it must, and whatever is done later, what was dropped does not come back. -/
structure Keeps (log : RetainedLog α) (history : History α) : Prop where
  total_eq : log.total = history.pushed.length
  suffix : log.entries <:+ history.pushed
  size_le_total : log.size ≤ log.total
  capacity_eq : log.capacity = history.capacity
  size_le_capacity : ∀ c, log.capacity = some c → log.size ≤ c
  bounded : ∀ c, history.AlwaysHad (some c) →
    log.entries = history.pushed.rtake (min log.total c)
  unbounded : history.AlwaysHad none → log.entries = history.pushed
  widened : ∀ wider, (∀ w, wider = some w → ∃ c, log.capacity = some c ∧ c ≤ w) →
    log.setCapacity wider = { log with capacity := wider }
  narrowed : ∀ c, (log.setCapacity (some c)).entries = log.entries.rtake (min log.size c) ∧
    (log.setCapacity (some c)).total = log.total
  lasting : ∀ later : List (Operation α), (later.foldl after log).entries <:+
    (later.foldl History.after (.start log.capacity log.entries)).pushed

namespace Follows

variable {log : RetainedLog α} {history : History α}

/-- A new log follows what happened so far, for nothing did. -/
theorem empty (capacity : Option Nat) :
    (RetainedLog.empty capacity : RetainedLog α).Follows (.start capacity []) where
  capacity_eq := rfl
  total_eq := rfl
  suffix := List.suffix_rfl
  size_le_capacity c _ := Nat.zero_le c
  constant capacity _ := (newest_nil capacity).symm

/-- What an operation leaves follows what happened once it is done. -/
theorem after (h : log.Follows history) (operation : Operation α) :
    (log.after operation).Follows (history.after operation) := by
  have hsuffix : (log.after operation).entries <:+ (history.after operation).pushed :=
    entries_suffix_foldl log history h.suffix [operation]
  cases operation with
  | push entry =>
      refine ⟨h.capacity_eq, ?_, hsuffix, fun c hc => ?_, fun capacity halways => ?_⟩
      · show log.total + 1 = (history.pushed ++ [entry]).length
        rw [h.total_eq, List.length_append, List.length_singleton]
      · exact length_newest_le hc (log.entries ++ [entry])
      · have hnow : history.capacity = capacity := halways _ List.mem_cons_self
        show newest log.capacity (log.entries ++ [entry]) =
          newest capacity (history.pushed ++ [entry])
        rw [h.capacity_eq, hnow, h.constant capacity halways, newest_push]
  | setCapacity present =>
      refine ⟨rfl, h.total_eq, hsuffix, fun c hc => length_newest_le hc log.entries,
        fun capacity halways => ?_⟩
      have hnow : present = capacity := halways _ List.mem_cons_self
      have hbefore : history.AlwaysHad capacity := fun had hhad =>
        halways had (List.mem_cons_of_mem present hhad)
      show newest present log.entries = newest capacity history.pushed
      rw [hnow, h.constant capacity hbefore, newest_newest]
  | clear =>
      exact ⟨h.capacity_eq, rfl, hsuffix, fun c _ => Nat.zero_le c,
        fun capacity _ => (newest_nil capacity).symm⟩

/-- What a run of operations leaves follows what happened in it. -/
theorem foldl (h : log.Follows history) (operations : List (Operation α)) :
    (operations.foldl RetainedLog.after log).Follows (operations.foldl History.after history) := by
  induction operations generalizing log history with
  | nil => exact h
  | cons operation rest ih => exact ih (h.after operation)

/-- What has been preserved so far says what is kept. -/
theorem keeps (h : log.Follows history) : log.Keeps history where
  total_eq := h.total_eq
  suffix := h.suffix
  size_le_total := h.total_eq.symm ▸ h.suffix.length_le
  capacity_eq := h.capacity_eq
  size_le_capacity := h.size_le_capacity
  bounded c halways := by
    rw [h.constant (some c) halways, h.total_eq, newest_eq_rtake]
  unbounded := h.constant none
  widened wider hwider := by
    have hroom : ∀ w, wider = some w → log.entries.length ≤ w := fun w hw => by
      obtain ⟨c, hc, hle⟩ := hwider w hw
      exact (h.size_le_capacity c hc).trans hle
    show { log with entries := newest wider log.entries, capacity := wider } = _
    rw [newest_of_fits hroom]
  narrowed c := ⟨newest_eq_rtake c log.entries, rfl⟩
  lasting := entries_suffix_foldl log (.start log.capacity log.entries) List.suffix_rfl

end Follows

/-- Whatever is done to a log that starts out empty, with room for some number of entries or for
any, it keeps of what was pushed since it was made or last cleared what it should. -/
theorem keeps_newest (capacity : Option Nat) (operations : List (Operation α)) :
    (operations.foldl after (empty capacity)).Keeps
      (operations.foldl History.after (.start capacity [])) :=
  ((Follows.empty capacity).foldl operations).keeps

end RetainedLog

end Storefront
