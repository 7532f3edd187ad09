/-!
# Retained logs

A log that keeps its newest entries and counts all of them. With a capacity, the oldest entries
beyond it are dropped; without one nothing is dropped. `total` is the number of entries pushed since
the log was last cleared, dropped ones included.
-/

namespace Storefront

/-- Entries, oldest first, with the capacity and the number of entries ever pushed. -/
structure RetainedLog (α : Type) where
  entries : List α
  capacity : Option Nat
  total : Nat

namespace RetainedLog

variable {α : Type}

/-- An empty log with a capacity, or without one. -/
def empty (capacity : Option Nat) : RetainedLog α :=
  ⟨[], capacity, 0⟩

/-- The newest entries that a capacity allows. -/
def newest (capacity : Option Nat) (entries : List α) : List α :=
  match capacity with
  | none => entries
  | some c => entries.drop (entries.length - c)

/-- Add an entry, dropping the oldest one if there is no room. -/
def push (log : RetainedLog α) (entry : α) : RetainedLog α :=
  { log with entries := newest log.capacity (log.entries ++ [entry]), total := log.total + 1 }

/-- Change the capacity, dropping the oldest entries beyond it. -/
def setCapacity (log : RetainedLog α) (capacity : Option Nat) : RetainedLog α :=
  { log with entries := newest capacity log.entries, capacity := capacity }

/-- Forget all entries and start counting anew. The capacity stays. -/
def clear (log : RetainedLog α) : RetainedLog α :=
  { log with entries := [], total := 0 }

/-- The number of entries that are kept. -/
def size (log : RetainedLog α) : Nat :=
  log.entries.length

end RetainedLog

end Storefront
