import Mathlib.Data.List.Basic
import Storefront.Proofs.Text.Blank
import Storefront.Proofs.Text.Percent
import Storefront.Proofs.Text.Pieces
import Storefront.Trace.Baggage

/-!
# Reading baggage back

A header of baggage is read as the entries it was made from, `ofHeader_header`: each entry is
written as one member, no member holds the characters that end one, and the order of the members
does not matter because no key comes twice. Only an entry under the empty key is lost, since no
member may stand for it.
-/

namespace Storefront

namespace Dict

variable {α : Type}

/-- What is found under a key of some entries is one of the entries. -/
theorem mem_of_lookup {key : String} {value : α} {entries : List (String × α)}
    (h : lookup key entries = some value) : (key, value) ∈ entries := by
  induction entries with
  | nil => cases h
  | cons head rest ih =>
      obtain ⟨k, a⟩ := head
      by_cases hkey : k = key
      · rw [lookup, if_pos hkey, Option.some_inj] at h
        rw [hkey, h]
        exact List.mem_cons_self
      · rw [lookup, if_neg hkey] at h
        exact List.mem_cons_of_mem _ (ih h)

/-- Where no key comes twice, every entry is found under its key. -/
theorem lookup_of_mem {key : String} {value : α} {entries : List (String × α)}
    (hkeys : (entries.map Prod.fst).Nodup) (h : (key, value) ∈ entries) :
    lookup key entries = some value := by
  induction entries with
  | nil => cases h
  | cons head rest ih =>
      obtain ⟨hfresh, hrest⟩ := List.nodup_cons.mp hkeys
      rcases List.mem_cons.mp h with rfl | hmem
      · exact if_pos rfl
      · have hne : head.1 ≠ key := by
          rintro rfl
          exact hfresh (List.mem_map.mpr ⟨_, hmem, rfl⟩)
        rw [lookup, if_neg hne]
        exact ih hrest hmem

/-- No key of a dictionary comes twice. -/
theorem nodup_keys (d : Dict α) : (d.entries.map Prod.fst).Nodup := by
  rw [List.Nodup, List.pairwise_map]
  exact d.sorted.imp fun hlt ↦ Std.ne_of_lt hlt

/-- Nothing is removed from a dictionary under a key that it does not have. -/
theorem erase_eq_self {d : Dict α} {key : String} (h : d.get? key = none) :
    d.erase key = d := by
  refine ext fun other ↦ ?_
  rw [get?_erase]
  split
  · rename_i heq
    rw [← heq, h]
  · rfl

/-- Insertions under other keys leave a key alone. -/
theorem get?_insertAll_of_forall_ne {entries : List (String × α)} {key : String}
    (h : ∀ e ∈ entries, e.1 ≠ key) (d : Dict α) : (d.insertAll entries).get? key = d.get? key := by
  induction entries generalizing d with
  | nil => rfl
  | cons head rest ih =>
      obtain ⟨hhead, hrest⟩ := List.forall_mem_cons.mp h
      show ((d.insert head.1 head.2).insertAll rest).get? key = _
      rw [ih hrest, get?_insert, if_neg hhead]

/-- Insertions change what is under their keys and nothing else. -/
theorem get?_insertAll {entries : List (String × α)} (hkeys : (entries.map Prod.fst).Nodup)
    (d : Dict α) (key : String) :
    (d.insertAll entries).get? key = (lookup key entries).or (d.get? key) := by
  induction entries generalizing d with
  | nil => rfl
  | cons head rest ih =>
      obtain ⟨hfresh, hrest⟩ := List.nodup_cons.mp hkeys
      show ((d.insert head.1 head.2).insertAll rest).get? key = _
      rw [ih hrest, get?_insert]
      by_cases hkey : head.1 = key
      -- The key does not come again, so what is inserted now stays.
      · have hnone : lookup key rest = none := by
          cases hfound : lookup key rest with
          | none => rfl
          | some value =>
              exact absurd (List.mem_map_of_mem (mem_of_lookup hfound)) (hkey ▸ hfresh)
        rw [hnone, if_pos hkey, lookup, if_pos hkey]
        rfl
      · rw [if_neg hkey, lookup, if_neg hkey]

/-- A dictionary can be made from its entries in any order. -/
theorem ofList_of_perm {d : Dict α} {entries : List (String × α)} (h : entries.Perm d.entries) :
    ofList entries = d := by
  have hkeys : (entries.map Prod.fst).Nodup := (h.map Prod.fst).nodup_iff.mpr d.nodup_keys
  refine ext fun key ↦ ?_
  rw [ofList, get?_insertAll hkeys]
  show (lookup key entries).or none = lookup key d.entries
  rw [Option.or_none]
  refine Option.ext fun value ↦ ⟨fun hfound ↦ ?_, fun hfound ↦ ?_⟩
  · exact lookup_of_mem d.nodup_keys (h.mem_iff.mp (mem_of_lookup hfound))
  · exact lookup_of_mem hkeys (h.mem_iff.mpr (mem_of_lookup hfound))

end Dict

namespace Baggage

open Text (percentEncode not_mem_percentEncode)

/-- No character of an encoded part is a gap. -/
theorem isGap_of_mem_percentEncode {s : String} {c : Char} (h : c ∈ (percentEncode s).toList) :
    isGap c = false := by
  have hblank : c ≠ ' ' := by
    rintro rfl
    exact not_mem_percentEncode rfl s h
  have htab : c ≠ '\t' := by
    rintro rfl
    exact not_mem_percentEncode rfl s h
  simp [isGap, hblank, htab]

/-- An encoded part is read as the text it was made from. -/
theorem part?_percentEncode (s : String) : part? (percentEncode s).toList = some s := by
  rw [part?, Text.dropEnds_eq_self fun _ ↦ isGap_of_mem_percentEncode, String.ofList_toList,
    Text.percentDecode?_percentEncode]

/-- A member is the encoded key, an equals sign, and the encoded value. -/
theorem toList_member (entry : String × String) :
    (member entry).toList =
      (percentEncode entry.1).toList ++ '=' :: (percentEncode entry.2).toList := by
  simp [member]

/-- A member holds no character that is neither of its parts nor an equals sign. -/
theorem not_mem_member {c : Char} (hpart : Text.isPercentChar c = false) (hsign : c ≠ '=')
    (entry : String × String) : c ∉ (member entry).toList := by
  rw [toList_member]
  intro h
  rcases List.mem_append.mp h with h | h
  · exact not_mem_percentEncode hpart _ h
  rcases List.mem_cons.mp h with h | h
  · exact hsign h
  · exact not_mem_percentEncode hpart _ h

/-- A member is read as the entry it was made from, unless its key is empty. -/
theorem entry?_member (entry : String × String) :
    entry? (member entry).toList = if entry.1 = "" then none else some entry := by
  have hproperties : ';' ∉ (member entry).toList := not_mem_member rfl (by decide) entry
  have hkey : '=' ∉ (percentEncode entry.1).toList := not_mem_percentEncode rfl entry.1
  unfold entry?
  rw [Text.before_eq_self hproperties, toList_member, Text.cutAt?_append hkey]
  simp only [bind, Option.bind, part?_percentEncode]

/-- The members of a header are those of the entries, in some order. -/
theorem members_perm (b : Baggage) : b.members.Perm (b.entries.map member) :=
  List.mergeSort_perm _ _

/-- The entries that members are read as are those they were made from, in some order, but for one
under the empty key. -/
theorem filterMap_entry?_members_perm (b : Baggage) :
    ((b.members.map String.toList).filterMap entry?).Perm (b.erase "").entries := by
  have hread : ((b.entries.map member).map String.toList).filterMap entry? =
      (b.erase "").entries := by
    rw [List.map_map, List.filterMap_map]
    show b.entries.filterMap (fun e ↦ entry? (member e).toList) = b.entries.filter (·.1 != "")
    rw [← List.filterMap_eq_filter]
    refine List.filterMap_congr fun entry _ ↦ ?_
    rw [entry?_member]
    by_cases hkey : entry.1 = "" <;> simp [Option.guard, hkey]
  rw [← hread]
  exact (b.members_perm.map _).filterMap _

/-- A header is read as the baggage it was made from, without an entry under the empty key. -/
theorem ofHeader_header {b : Baggage} {header : String} (h : b.header? = some header) :
    ofHeader header = b.erase "" := by
  unfold header? at h
  split at h
  · cases h
  · rename_i hentries
    cases h
    have hne : b.members ≠ [] := by
      intro hnil
      have hlength := b.members_perm.length_eq
      rw [hnil, List.length_map, List.length_nil] at hlength
      exact hentries (List.isEmpty_iff_length_eq_zero.mpr hlength.symm)
    have hcomma : ∀ m ∈ b.members, ',' ∉ m.toList := by
      intro m hm
      obtain ⟨entry, -, rfl⟩ := List.mem_map.mp (b.members_perm.mem_iff.mp hm)
      exact not_mem_member rfl (by decide) entry
    have hpieces := Text.pieces_join hne hcomma
    rw [ofHeader]
    show Dict.ofList ((Text.pieces ',' (Text.join (String.singleton ',') _).toList).filterMap _) = _
    rw [hpieces]
    exact Dict.ofList_of_perm b.filterMap_entry?_members_perm

/-- Without a header there is nothing to read. -/
theorem erase_of_header?_eq_none {b : Baggage} (h : b.header? = none) : b.erase "" = .empty := by
  unfold header? at h
  split at h
  · rename_i hempty
    have hentries : b.entries = [] := List.isEmpty_iff.mp hempty
    exact Dict.ext fun key ↦ by simp [Dict.get?, Dict.erase, hentries, Dict.empty]
  · cases h

/-- A header is made of the characters of percent encoding, equals signs, and commas. -/
theorem mem_header {b : Baggage} {header : String} (h : b.header? = some header) {c : Char}
    (hc : c ∈ header.toList) : Text.isPercentChar c = true ∨ c = '=' ∨ c = ',' := by
  unfold header? at h
  split at h
  · cases h
  · cases h
    rw [Text.join, String.toList_intercalate] at hc
    rcases Text.mem_intercalate hc with hcomma | ⟨part, hpart, hc⟩
    · exact .inr (.inr (List.mem_singleton.mp hcomma))
    obtain ⟨m, hm, rfl⟩ := List.mem_map.mp hpart
    obtain ⟨entry, -, rfl⟩ := List.mem_map.mp (b.members_perm.mem_iff.mp hm)
    rw [toList_member] at hc
    rcases List.mem_append.mp hc with hc | hc
    · exact .inl (Text.isPercentChar_of_mem_percentEncode hc)
    rcases List.mem_cons.mp hc with hc | hc
    · exact .inr (.inl hc)
    · exact .inl (Text.isPercentChar_of_mem_percentEncode hc)

end Baggage

end Storefront
