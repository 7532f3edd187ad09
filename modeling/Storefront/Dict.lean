/-!
# Dictionaries

Values under texts, kept in the order of the texts with no text twice, so that two dictionaries
with the same values are equal. `get?_insert` says what an insertion changes and what it leaves
alone, and `ext` that a dictionary is determined by its look-ups.
-/

namespace Storefront

/-- Values under keys, sorted by key. -/
structure Dict (α : Type) where
  entries : List (String × α)
  sorted : entries.Pairwise fun a b ↦ a.1 < b.1

namespace Dict

variable {α : Type}

/-- No values. -/
def empty : Dict α :=
  ⟨[], .nil⟩

/-- The value under a key in a list of entries. -/
def lookup (key : String) : List (String × α) → Option α
  | [] => none
  | (k, a) :: rest => if k = key then some a else lookup key rest

/-- The value under a key. -/
def get? (d : Dict α) (key : String) : Option α :=
  lookup key d.entries

/-- Put a value under a key into sorted entries, in place of the one that is there. -/
def put (key : String) (value : α) : List (String × α) → List (String × α)
  | [] => [(key, value)]
  | (k, a) :: rest =>
      if key < k then (key, value) :: (k, a) :: rest
      else if k = key then (key, value) :: rest
      else (k, a) :: put key value rest

/-- What `put` adds is the new entry, and nothing else. -/
theorem mem_put {key : String} {value : α} {entries : List (String × α)} {e : String × α}
    (h : e ∈ put key value entries) : e = (key, value) ∨ e ∈ entries := by
  induction entries with
  | nil => simpa [put] using h
  | cons head rest ih =>
      simp only [put] at h
      split at h
      · simpa using h
      · split at h
        · rcases List.mem_cons.mp h with h | h
          · exact .inl h
          · exact .inr (List.mem_cons_of_mem _ h)
        · rcases List.mem_cons.mp h with h | h
          · exact .inr (h ▸ List.mem_cons_self)
          · exact (ih h).imp_right (List.mem_cons_of_mem _)

/-- `put` keeps entries sorted. -/
theorem sorted_put {key : String} {value : α} {entries : List (String × α)}
    (h : entries.Pairwise fun a b ↦ a.1 < b.1) :
    (put key value entries).Pairwise fun a b ↦ a.1 < b.1 := by
  induction entries with
  | nil => simp [put]
  | cons head rest ih =>
      obtain ⟨k, a⟩ := head
      obtain ⟨hhead, hrest⟩ := List.pairwise_cons.mp h
      simp only [put]
      split
      · rename_i hlt
        refine List.pairwise_cons.mpr ⟨fun e he ↦ ?_, h⟩
        rcases List.mem_cons.mp he with he | he
        · exact he ▸ hlt
        · exact String.lt_trans hlt (hhead e he)
      · rename_i hnot
        split
        · rename_i heq
          exact List.pairwise_cons.mpr ⟨heq ▸ hhead, hrest⟩
        · rename_i hne
          refine List.pairwise_cons.mpr ⟨fun e he ↦ ?_, ih hrest⟩
          rcases mem_put he with he | he
          · exact he ▸ Std.lt_of_le_of_ne (String.not_lt.mp hnot) hne
          · exact hhead e he

/-- Put a value under a key. -/
def insert (d : Dict α) (key : String) (value : α) : Dict α :=
  ⟨put key value d.entries, sorted_put d.sorted⟩

/-- Remove the value under a key. -/
def erase (d : Dict α) (key : String) : Dict α :=
  ⟨d.entries.filter fun e ↦ e.1 != key, d.sorted.filter _⟩

/-- Insert entries from left to right, so that the later of two under one key stays. -/
def insertAll (d : Dict α) (entries : List (String × α)) : Dict α :=
  entries.foldl (fun d e ↦ d.insert e.1 e.2) d

/-- The dictionary of a list of entries; of two under one key the later one stays. -/
def ofList (entries : List (String × α)) : Dict α :=
  empty.insertAll entries

/-- The keys in order. -/
def keys (d : Dict α) : List String :=
  d.entries.map Prod.fst

/-- The number of values. -/
def size (d : Dict α) : Nat :=
  d.entries.length

/-- There are no values. -/
def isEmpty (d : Dict α) : Bool :=
  d.entries.isEmpty

/-- Look-up after `put`: the new value under its key, and under any other key what was there. -/
theorem lookup_put (key other : String) (value : α) (entries : List (String × α)) :
    lookup other (put key value entries) =
      if key = other then some value else lookup other entries := by
  induction entries with
  | nil => simp [put, lookup]
  | cons head rest ih =>
      simp only [put]
      split
      · simp only [lookup]
      · split
        · rename_i heq
          subst heq
          by_cases h : head.1 = other <;> simp [lookup, h]
        · rename_i hne
          by_cases h : head.1 = other
          · subst h
            simp [lookup, Ne.symm hne]
          · simp [lookup, h, ih]

/-- An insertion changes what is under its key and nothing else. -/
theorem get?_insert (d : Dict α) (key other : String) (value : α) :
    (d.insert key value).get? other = if key = other then some value else d.get? other :=
  lookup_put key other value d.entries

/-- After a removal there is nothing under the key, and what is under another key stays. -/
theorem get?_erase (d : Dict α) (key other : String) :
    (d.erase key).get? other = if key = other then none else d.get? other := by
  simp only [get?, erase]
  induction d.entries with
  | nil => simp [lookup]
  | cons head rest ih =>
      by_cases h : head.1 = key
      · rw [List.filter_cons_of_neg (by simp [h]), ih]
        by_cases ho : key = other
        · simp [ho]
        · have : ¬head.1 = other := fun e ↦ ho (h.symm.trans e)
          simp [lookup, ho, this]
      · rw [List.filter_cons_of_pos (by simp [h])]
        by_cases ho : head.1 = other
        · subst ho
          simp [lookup, Ne.symm h]
        · simp [lookup, ho, ih]

/-- A key below all others is not among them. -/
theorem lookup_eq_none {key : String} {entries : List (String × α)}
    (h : ∀ e ∈ entries, key < e.1) : lookup key entries = none := by
  induction entries with
  | nil => rfl
  | cons head rest ih =>
      have hne : ¬head.1 = key := fun e ↦ String.lt_irrefl key (e ▸ h head List.mem_cons_self)
      simp [lookup, hne, ih fun e he ↦ h e (List.mem_cons_of_mem _ he)]

/-- Sorted entries with the same look-ups are the same. -/
theorem entries_ext {xs ys : List (String × α)} (hx : xs.Pairwise fun a b ↦ a.1 < b.1)
    (hy : ys.Pairwise fun a b ↦ a.1 < b.1) (h : ∀ key, lookup key xs = lookup key ys) :
    xs = ys := by
  induction xs generalizing ys with
  | nil =>
      cases ys with
      | nil => rfl
      | cons y ys => simpa [lookup] using h y.1
  | cons x xs ih =>
      cases ys with
      | nil => simpa [lookup] using h x.1
      | cons y ys =>
          obtain ⟨hxh, hxt⟩ := List.pairwise_cons.mp hx
          obtain ⟨hyh, hyt⟩ := List.pairwise_cons.mp hy
          have hkey : x.1 = y.1 := by
            rcases String.le_total x.1 y.1 with hle | hle
            · refine Classical.byContradiction fun hne ↦ ?_
              have hlt := Std.lt_of_le_of_ne hle hne
              have hnone : lookup x.1 (y :: ys) = none := lookup_eq_none fun e he ↦ by
                rcases List.mem_cons.mp he with he | he
                · exact he ▸ hlt
                · exact String.lt_trans hlt (hyh e he)
              have hx1 : lookup x.1 (x :: xs) = none := (h x.1).trans hnone
              simp [lookup] at hx1
            · refine Classical.byContradiction fun hne ↦ ?_
              have hlt := Std.lt_of_le_of_ne hle (Ne.symm hne)
              have hnone : lookup y.1 (x :: xs) = none := lookup_eq_none fun e he ↦ by
                rcases List.mem_cons.mp he with he | he
                · exact he ▸ hlt
                · exact String.lt_trans hlt (hxh e he)
              have hy1 : lookup y.1 (y :: ys) = none := (h y.1).symm.trans hnone
              simp [lookup] at hy1
          have hval : x.2 = y.2 := by simpa [lookup, hkey] using h x.1
          have hrest : xs = ys := by
            refine ih hxt hyt fun key ↦ ?_
            by_cases hk : x.1 = key
            · subst hk
              rw [lookup_eq_none hxh, lookup_eq_none (hkey ▸ hyh)]
            · have hk' : ¬y.1 = key := fun e ↦ hk (hkey.trans e)
              simpa [lookup, hk, hk'] using h key
          rw [hrest, Prod.ext hkey hval]

/-- A dictionary is determined by its look-ups. -/
theorem ext {a b : Dict α} (h : ∀ key, a.get? key = b.get? key) : a = b := by
  obtain ⟨xs, hx⟩ := a
  obtain ⟨ys, hy⟩ := b
  have : xs = ys := entries_ext hx hy h
  subst this
  rfl

end Dict

end Storefront
