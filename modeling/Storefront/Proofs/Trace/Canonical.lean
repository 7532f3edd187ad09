import Mathlib.Data.List.Perm.Basic
import Mathlib.Data.List.Sort
import Storefront.Proofs.Trace.RoundTrip

/-!
# The header names its baggage

A header of baggage is a name of what the baggage holds. It does not depend on the order in which
the entries are gone through, since members are sorted; and it can be told from it what the baggage
holds, since no two entries are written as one member and no member holds a comma,
`headerOf?_eq_iff`. So baggage that came about in different ways is written as the same text exactly
when the same text was put last under every key, `header_is_canonical`.
-/

namespace Storefront

namespace Dict

variable {α : Type} {d : Dict α} {order : List (String × α)}

/-- `d.Lists order` says that the entries of a dictionary may be gone through in this order: each of
them comes, under its own key. -/
structure Lists (d : Dict α) (order : List (String × α)) : Prop where
  nodup : (order.map Prod.fst).Nodup
  mem_iff : ∀ key value, (key, value) ∈ order ↔ d.get? key = some value

/-- The entries of a dictionary are gone through when they are taken by their keys. -/
theorem lists_entries (d : Dict α) : d.Lists d.entries where
  nodup := d.nodup_keys
  mem_iff _ _ := ⟨lookup_of_mem d.nodup_keys, mem_of_lookup⟩

/-- The entries of a dictionary may be gone through in any order. -/
theorem lists_of_perm (h : order.Perm d.entries) : d.Lists order where
  nodup := (h.map Prod.fst).nodup_iff.mpr d.nodup_keys
  mem_iff key value := h.mem_iff.trans (d.lists_entries.mem_iff key value)

/-- Whatever the order, the same entries are gone through. -/
theorem Lists.perm {other : List (String × α)} (h : d.Lists order) (hother : d.Lists other) :
    order.Perm other := by
  refine (List.perm_ext_iff_of_nodup h.nodup.of_map hother.nodup.of_map).mpr ?_
  rintro ⟨key, value⟩
  rw [h.mem_iff, hother.mem_iff]

/-- Of several entries under one key a dictionary has the last. -/
theorem get?_ofList (entries : List (String × α)) (key : String) :
    (ofList entries).get? key = lookup key entries.reverse := by
  induction entries using List.reverseRecOn with
  | nil => rfl
  | append_singleton entries e ih =>
      have hlast : ofList (entries ++ [e]) = (ofList entries).insert e.1 e.2 := List.foldl_append
      rw [hlast, get?_insert, ih, List.reverse_concat]
      rfl

end Dict

/-- Different texts are written differently in percent encoding. -/
theorem Text.percentEncode_injective : Function.Injective Text.percentEncode := by
  intro s t h
  have hread : percentDecode? (percentEncode s) = percentDecode? (percentEncode t) := by rw [h]
  rwa [percentDecode?_percentEncode, percentDecode?_percentEncode, Option.some_inj] at hread

/-- Texts without the separator can be told from what they are joined to. -/
theorem Text.join_inj {separator : Char} {texts others : List String} (htexts : texts ≠ [])
    (hothers : others ≠ []) (h : ∀ s ∈ texts, separator ∉ s.toList)
    (h' : ∀ s ∈ others, separator ∉ s.toList)
    (heq : join (String.singleton separator) texts = join (String.singleton separator) others) :
    texts = others := by
  have hpieces := pieces_join htexts h
  rw [heq, pieces_join hothers h'] at hpieces
  have hinjective : Function.Injective String.toList := fun _ _ ↦ String.toList_injective
  exact (List.map_injective_iff.mpr hinjective hpieces).symm

namespace Baggage

open Text (percentEncode not_mem_percentEncode percentEncode_injective)

/-- No two entries are written as the same member. -/
theorem member_injective : Function.Injective member := by
  intro e f h
  have hkey : ∀ entry : String × String, '=' ∉ (percentEncode entry.1).toList := fun entry ↦
    not_mem_percentEncode rfl entry.1
  -- The first equals sign is the one between the parts.
  have hcut := Text.cutAt?_append (hkey e) (percentEncode e.2).toList
  rw [← toList_member, h, toList_member, Text.cutAt?_append (hkey f)] at hcut
  obtain ⟨hfirst, hsecond⟩ := Prod.mk.inj (Option.some_inj.mp hcut)
  refine Prod.ext ?_ ?_
  · exact (percentEncode_injective (String.toList_injective hfirst)).symm
  · exact (percentEncode_injective (String.toList_injective hsecond)).symm

/-- The members of entries that are gone through in this order. -/
def membersOf (order : List (String × String)) : List String :=
  (order.map member).mergeSort fun x y ↦ decide (x ≤ y)

/-- The header of entries that are gone through in this order. -/
def headerOf? (order : List (String × String)) : Option String :=
  if order.isEmpty then none else some (Text.join "," (membersOf order))

variable {order other : List (String × String)}

/-- Members are those of the entries, in some order. -/
theorem membersOf_perm (order : List (String × String)) :
    (membersOf order).Perm (order.map member) :=
  List.mergeSort_perm _ _

/-- Members are sorted. -/
theorem sorted_membersOf (order : List (String × String)) :
    (membersOf order).Pairwise fun x y ↦ x ≤ y := by
  have htrans : ∀ x y z : String, decide (x ≤ y) = true → decide (y ≤ z) = true →
      decide (x ≤ z) = true := by
    intro x y z hxy hyz
    simp only [decide_eq_true_eq] at *
    exact String.le_trans hxy hyz
  have htotal : ∀ x y : String, (decide (x ≤ y) || decide (y ≤ x)) = true := by
    intro x y
    simp only [Bool.or_eq_true, decide_eq_true_eq]
    exact String.le_total x y
  have hsorted := List.pairwise_mergeSort htrans htotal (order.map member)
  exact hsorted.imp fun h ↦ of_decide_eq_true h

/-- Sorted members of the entries are the members. -/
theorem membersOf_eq {ms : List String} (hperm : ms.Perm (order.map member))
    (hsorted : ms.Pairwise fun x y ↦ x ≤ y) : membersOf order = ms :=
  ((membersOf_perm order).trans hperm.symm).eq_of_pairwise
    (fun _ _ _ _ ↦ String.le_antisymm) (sorted_membersOf order) hsorted

/-- The members are the same exactly when the entries are, whatever their order. -/
theorem membersOf_eq_iff : membersOf order = membersOf other ↔ order.Perm other := by
  rw [← List.map_perm_map_iff member_injective]
  constructor
  · intro h
    exact (membersOf_perm order).symm.trans ((List.Perm.of_eq h).trans (membersOf_perm other))
  · intro h
    exact membersOf_eq ((membersOf_perm other).trans h.symm) (sorted_membersOf other)

/-- There is a member for each entry. -/
theorem membersOf_ne_nil (h : order ≠ []) : membersOf order ≠ [] := by
  intro hnil
  have hlength := (membersOf_perm order).length_eq
  rw [hnil, List.length_map] at hlength
  exact h (List.eq_nil_of_length_eq_zero hlength.symm)

/-- No member holds a comma. -/
theorem not_mem_of_mem_membersOf {m : String} (h : m ∈ membersOf order) : ',' ∉ m.toList := by
  obtain ⟨entry, -, rfl⟩ := List.mem_map.mp ((membersOf_perm order).mem_iff.mp h)
  exact not_mem_member rfl (by decide) entry

/-- The header is the same exactly when the entries are, whatever their order. -/
theorem headerOf?_eq_iff : headerOf? order = headerOf? other ↔ order.Perm other := by
  unfold headerOf?
  by_cases horder : order = []
  · by_cases hother : other = []
    · simp [horder, hother]
    · simp [horder, hother, List.nil_perm]
  · by_cases hother : other = []
    · simp [horder, hother, List.perm_nil]
    · rw [if_neg (by simpa using horder), if_neg (by simpa using hother), Option.some_inj,
        ← membersOf_eq_iff]
      have hcommas : ∀ order, ∀ m ∈ membersOf order, ',' ∉ m.toList :=
        fun _ _ ↦ not_mem_of_mem_membersOf
      refine ⟨fun h ↦ ?_, fun h ↦ by rw [h]⟩
      exact Text.join_inj (membersOf_ne_nil horder) (membersOf_ne_nil hother) (hcommas order)
        (hcommas other) h

/-- The header of baggage is the same, in whatever order its entries are gone through. -/
theorem headerOf?_of_lists {b : Baggage} (h : b.Lists order) : headerOf? order = b.header? :=
  headerOf?_eq_iff.mpr (h.perm b.lists_entries)

/-- Baggage is written as the same header exactly when it is the same baggage. -/
theorem header?_eq_iff {b c : Baggage} : b.header? = c.header? ↔ b = c := by
  refine ⟨fun h ↦ ?_, fun h ↦ by rw [h]⟩
  have hperm : b.entries.Perm c.entries := headerOf?_eq_iff.mp h
  calc b = .ofList b.entries := (Dict.ofList_of_perm (List.Perm.refl _)).symm
    _ = c := Dict.ofList_of_perm hperm

/-- There is no header exactly when the baggage holds nothing. -/
theorem header?_eq_none_iff {b : Baggage} : b.header? = none ↔ ∀ key, b.get? key = none := by
  have hempty : header? Dict.empty = none := rfl
  rw [← hempty, header?_eq_iff]
  constructor
  · rintro rfl key
    rfl
  · exact fun h ↦ Dict.ext h

/-- How baggage comes about: from a list of pairs, and by insertions. -/
inductive Making where
  | ofPairs (pairs : List (String × String))
  | insert (before : Making) (key value : String)

namespace Making

/-- The baggage that has come about. -/
def baggage : Making → Baggage
  | ofPairs pairs => .ofList pairs
  | insert before key value => before.baggage.insert key value

/-- All pairs that were put, in the order in which they were. -/
def written : Making → List (String × String)
  | ofPairs pairs => pairs
  | insert before key value => before.written ++ [(key, value)]

/-- The text that was put last under a key. -/
def last? (m : Making) (key : String) : Option String :=
  (m.written.reverse.find? fun pair ↦ pair.1 == key).map Prod.snd

/-- Baggage is that of all pairs that were put. -/
theorem baggage_eq (m : Making) : m.baggage = .ofList m.written := by
  induction m with
  | ofPairs pairs => rfl
  | insert before key value ih =>
      have hlast : Dict.ofList (before.written ++ [(key, value)]) =
          (Dict.ofList before.written).insert key value := List.foldl_append
      rw [baggage, ih, written, hlast]

/-- Baggage holds what was put last under each key. -/
theorem get?_baggage (m : Making) (key : String) : m.baggage.get? key = m.last? key := by
  have hlookup : ∀ entries : List (String × String), Dict.lookup key entries =
      (entries.find? fun pair ↦ pair.1 == key).map Prod.snd := by
    intro entries
    induction entries with
    | nil => rfl
    | cons e rest ih =>
        by_cases hkey : e.1 = key
        · simp [Dict.lookup, hkey]
        · simp [Dict.lookup, hkey, ih]
  rw [baggage_eq, Dict.get?_ofList, hlookup, last?]

/-- Two baggages are the same exactly when the same was put last under every key. -/
theorem baggage_eq_iff {first second : Making} :
    first.baggage = second.baggage ↔ ∀ key, first.last? key = second.last? key := by
  constructor
  · intro h key
    rw [← get?_baggage, h, get?_baggage]
  · intro h
    refine Dict.ext fun key ↦ ?_
    rw [get?_baggage, get?_baggage, h]

end Making

end Baggage

namespace Carrier

open Baggage (Making headerName headerOf?)

/-- What a carrier has under the name of baggage after a context was written into a new one. -/
def baggageText (C : Type) [Carrier C] (context : Context) : Option String :=
  get? (inject context (empty : C)) headerName

/-- A carrier names baggage: what it has of two contexts under the name of baggage, whatever their
parents, is the same exactly when both baggages hold the same; it is a plain text; and a context
leaves whatever the carrier had exactly when there is no baggage. -/
structure NamesBaggage (C : Type) [Carrier C] : Prop where
  same_iff : ∀ (parent other : Option SpanContext) (first second : Making),
    baggageText C ⟨parent, first.baggage⟩ = baggageText C ⟨other, second.baggage⟩ ↔
      ∀ key, first.last? key = second.last? key
  plain : ∀ (context : Context) (text : String), baggageText C context = some text →
    text.toList.all isPlainChar = true
  none_iff : ∀ (parent : Option SpanContext) (m : Making),
    baggageText C ⟨parent, m.baggage⟩ = none ↔ ∀ key, m.last? key = none
  unwritten_iff : ∀ (parent : Option SpanContext) (m : Making),
    (∀ carrier : C, get? (inject ⟨parent, m.baggage⟩ carrier) headerName =
      get? carrier headerName) ↔ ∀ key, m.last? key = none

variable {C : Type} [Carrier C]

/-- What is in a new carrier under the name of baggage is the header. -/
theorem IsFaithful.baggageText_eq (hfaithful : IsFaithful C) (context : Context) :
    baggageText C context = context.baggage.header? := by
  rw [baggageText, get?_headerName_inject hfaithful, hfaithful.get?_empty, Option.or_none]

/-- A carrier that keeps headers apart names baggage. -/
theorem IsFaithful.namesBaggage (hfaithful : IsFaithful C) : NamesBaggage C := by
  have hnone : ∀ m : Making, m.baggage.header? = none ↔ ∀ key, m.last? key = none := by
    intro m
    rw [Baggage.header?_eq_none_iff]
    simp only [Making.get?_baggage]
  refine ⟨fun parent other first second ↦ ?_, fun context text h ↦ ?_, fun parent m ↦ ?_,
    fun parent m ↦ ?_⟩
  · rw [hfaithful.baggageText_eq, hfaithful.baggageText_eq, Baggage.header?_eq_iff,
      Making.baggage_eq_iff]
  · rw [hfaithful.baggageText_eq] at h
    exact all_isPlainChar_header h
  · rw [hfaithful.baggageText_eq, hnone]
  · rw [← hnone]
    constructor
    · intro h
      have hempty := h empty
      rwa [get?_headerName_inject hfaithful, hfaithful.get?_empty, Option.or_none] at hempty
    · intro h carrier
      rw [get?_headerName_inject hfaithful]
      show m.baggage.header?.or _ = _
      rw [h, Option.none_or]

/-- Two baggages that came about in whatever ways, and whose entries are gone through in whatever
orders, have the same header exactly when the same text was put last under every key. The order in
which the entries are gone through makes no difference to a context that is written, and each kind
of carrier names baggage. -/
theorem header_is_canonical :
    (∀ (first second : Making) (order other : List (String × String)),
      first.baggage.Lists order → second.baggage.Lists other →
        (headerOf? order = headerOf? other ↔ ∀ key, first.last? key = second.last? key)) ∧
    (∀ (m : Making) (order : List (String × String)), m.baggage.Lists order →
      headerOf? order = m.baggage.header?) ∧
    NamesBaggage CallMetadata ∧ NamesBaggage HeaderFields ∧ NamesBaggage RecordHeaders ∧
    NamesBaggage NameMap := by
  refine ⟨fun first second order other hfirst hsecond ↦ ?_, fun _ _ ↦ Baggage.headerOf?_of_lists,
    isFaithful_callMetadata.namesBaggage, isFaithful_headerFields.namesBaggage,
    isFaithful_recordHeaders.namesBaggage, isFaithful_nameMap.namesBaggage⟩
  rw [Baggage.headerOf?_of_lists hfirst, Baggage.headerOf?_of_lists hsecond,
    Baggage.header?_eq_iff, Making.baggage_eq_iff]

/-- Baggage from pairs, one of which is put in place of an earlier one. -/
def demoPairs : Making :=
  .ofPairs [("tenant", "red"), ("rank", "9"), ("tenant", "a,b")]

/-- The same baggage, put entry by entry. -/
def demoInserts : Making :=
  ((Making.ofPairs []).insert "rank" "9").insert "tenant" "a,b"

/-- Baggage whose only member would be that of the others with its comma, if commas were written as
they are. -/
def demoOther : Making :=
  .ofPairs [("rank", "9,tenant=a,b")]

/-- The same baggage has one header although it came about in two ways, and other baggage that is
made to look like it has another. -/
theorem lookalike_baggage_has_another_header :
    demoPairs.baggage.Lists [("tenant", "a,b"), ("rank", "9")] ∧
      demoInserts.baggage.Lists [("rank", "9"), ("tenant", "a,b")] ∧
      headerOf? [("tenant", "a,b"), ("rank", "9")] =
        headerOf? [("rank", "9"), ("tenant", "a,b")] ∧
      headerOf? [("tenant", "a,b"), ("rank", "9")] = demoPairs.baggage.header? ∧
      demoPairs.baggage.header? = some "rank=9,tenant=a%2Cb" ∧
      baggageText HeaderFields ⟨none, demoPairs.baggage⟩ ≠
        baggageText HeaderFields ⟨none, demoOther.baggage⟩ := by
  have hpairs : demoPairs.baggage.Lists [("tenant", "a,b"), ("rank", "9")] :=
    Dict.lists_of_perm (by decide)
  have hinserts : demoInserts.baggage.Lists [("rank", "9"), ("tenant", "a,b")] :=
    Dict.lists_of_perm (by decide)
  obtain ⟨hsame, hwritten, -, hfields, -, -⟩ := header_is_canonical
  have hmembers : Baggage.membersOf demoPairs.baggage.entries = ["rank=9", "tenant=a%2Cb"] :=
    Baggage.membersOf_eq (by decide) (by decide)
  refine ⟨hpairs, hinserts, ?_, hwritten _ _ hpairs, ?_, fun heq ↦ ?_⟩
  · exact (hsame _ _ _ _ hpairs hinserts).mpr (Making.baggage_eq_iff.mp rfl)
  · show some (Text.join "," (Baggage.membersOf demoPairs.baggage.entries)) = _
    rw [hmembers]
    rfl
  · have hrank := (hfields.same_iff none none demoPairs demoOther).mp heq "rank"
    exact absurd hrank (by decide)

end Carrier

end Storefront
