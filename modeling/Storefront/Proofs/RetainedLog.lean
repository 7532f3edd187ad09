import Mathlib.Data.List.Induction
import Storefront.RetainedLog

/-!
# What a log keeps

A log with room for a number of entries keeps the newest of them and counts them all, however much
room there is: `holds_foldl_push`. Its length never depends on anything but the number of entries
that were pushed, `Retains.push`.
-/

namespace Storefront

namespace RetainedLog

variable {α : Type}

/-- The newest entries are the last ones. -/
theorem newest_suffix (capacity : Option Nat) (entries : List α) :
    newest capacity entries <:+ entries := by
  cases capacity with
  | none => exact List.suffix_rfl
  | some c => exact List.drop_suffix _ entries

/-- No more are dropped than there is no room for. -/
theorem length_newest (capacity : Nat) (entries : List α) :
    (newest (some capacity) entries).length = min entries.length capacity := by
  show (entries.drop (entries.length - capacity)).length = _
  rw [List.length_drop]
  omega

/-- There is room for the newest entries. -/
theorem length_newest_le {capacity : Option Nat} {c : Nat} (h : capacity = some c)
    (entries : List α) : (newest capacity entries).length ≤ c := by
  rw [h, length_newest]
  exact Nat.min_le_right entries.length c

/-- What is dropped for one reason or another is dropped. -/
theorem newest_append_newest (capacity : Nat) (first rest : List α) :
    newest (some capacity) (newest (some capacity) first ++ rest) =
      newest (some capacity) (first ++ rest) := by
  unfold newest
  dsimp only
  rw [List.length_append, List.length_append, List.length_drop]
  by_cases hroom : first.length ≤ capacity
  · rw [Nat.sub_eq_zero_of_le hroom, List.drop_zero, Nat.sub_zero]
  · rw [← List.drop_append_of_le_length (Nat.sub_le first.length capacity), List.drop_drop]
    congr 1
    omega

/-- `log.Holds capacity all` says that the log is what these entries leave when they are pushed one
after the other into an empty log: it keeps the newest for which there is room, and it counts them
all. -/
structure Holds (log : RetainedLog α) (capacity : Nat) (all : List α) : Prop where
  pushed : log = all.foldl push (empty (some capacity))
  newest : log.entries = all.drop (all.length - capacity)
  size_eq : log.size = min all.length capacity
  total_eq : log.total = all.length

/-- Entries that are pushed into an empty log are held. -/
theorem holds_foldl_push (capacity : Nat) (all : List α) :
    (all.foldl push (empty (some capacity))).Holds capacity all := by
  have hlog : all.foldl push (empty (some capacity)) =
      ⟨RetainedLog.newest (some capacity) all, some capacity, all.length⟩ := by
    induction all using List.reverseRecOn with
    | nil => exact congrArg (RetainedLog.mk · (some capacity) 0) List.drop_nil.symm
    | append_singleton all entry ih =>
        rw [List.foldl_append, ih, List.foldl_cons, List.foldl_nil, push, newest_append_newest,
          List.length_append]
        rfl
  refine ⟨rfl, congrArg entries hlog, ?_, congrArg total hlog⟩
  rw [hlog]
  exact length_newest capacity all

/-- `log.Gains view told later` says that entries were pushed one after the other between two
moments, and that this is told of them. -/
def Gains {β : Type} (log : RetainedLog α) (view : α → β) (told : List β)
    (later : RetainedLog α) : Prop :=
  ∃ all : List α, all.map view = told ∧ later = all.foldl push log

namespace Gains

variable {β : Type} {log later last : RetainedLog α} {view : α → β} {told more : List β}

/-- A log that stays as it is gains nothing. -/
theorem of_eq (h : later = log) : log.Gains view [] later :=
  ⟨[], rfl, h⟩

/-- An entry that is pushed is gained. -/
theorem push (log : RetainedLog α) (view : α → β) (entry : α) :
    log.Gains view [view entry] (log.push entry) :=
  ⟨[entry], rfl, rfl⟩

/-- What is gained in two stretches is gained in one. -/
theorem append (hfirst : log.Gains view told later) (hrest : later.Gains view more last) :
    log.Gains view (told ++ more) last := by
  obtain ⟨first, rfl, rfl⟩ := hfirst
  obtain ⟨rest, rfl, rfl⟩ := hrest
  exact ⟨first ++ rest, List.map_append, List.foldl_append.symm⟩

/-- What an empty log has gained it holds. -/
theorem exists_holds {capacity : Nat} (h : (empty (some capacity)).Gains view told later) :
    ∃ all, all.length = told.length ∧ all.map view = told ∧ later.Holds capacity all := by
  obtain ⟨all, rfl, rfl⟩ := h
  exact ⟨all, (List.length_map view).symm, rfl, holds_foldl_push capacity all⟩

end Gains

/-- `log.Retains capacity` says that the log has so much room, and that it has as many entries as
were ever pushed or as there is room for, so never more than that. -/
structure Retains (log : RetainedLog α) (capacity : Nat) : Prop where
  capacity_eq : log.capacity = some capacity
  size_eq : log.size = min log.total capacity

namespace Retains

variable {log : RetainedLog α} {capacity : Nat}

/-- A log that is empty keeps all that was ever pushed. -/
theorem empty (capacity : Nat) : (RetainedLog.empty (some capacity) : RetainedLog α).Retains
    capacity :=
  ⟨rfl, (Nat.zero_min capacity).symm⟩

/-- One more entry is kept, and the oldest one goes if there is no room. -/
theorem push (h : log.Retains capacity) (entry : α) : (log.push entry).Retains capacity := by
  refine ⟨h.capacity_eq, ?_⟩
  have hsize : log.entries.length = min log.total capacity := h.size_eq
  show (newest log.capacity (log.entries ++ [entry])).length = min (log.total + 1) capacity
  rw [h.capacity_eq, length_newest, List.length_append, hsize, List.length_singleton]
  omega

end Retains

end RetainedLog

end Storefront
