import Storefront.Proofs.Trace.Baggage

/-!
# Members are read apart

A header of baggage comes from anybody, so each of its members is read without regard to the
others. The entries of joined texts are those of one text after the other, `entriesOf_join`. So two
headers joined by a comma are read as the first with the entries of the second put into it, a
member that stands for no entry might as well not be there, and neither gaps around a key or a value
nor properties behind it make a difference: `members_are_read_apart`.
-/

namespace Storefront

namespace Dict

variable {α : Type}

/-- Insertions leave under a key what they would leave in an empty dictionary, or else what was
there. -/
theorem get?_insertAll_ofList (d : Dict α) (entries : List (String × α)) (key : String) :
    (d.insertAll entries).get? key = ((ofList entries).get? key).or (d.get? key) := by
  induction entries generalizing d with
  | nil => rfl
  | cons head rest ih =>
      have hfirst : (d.insertAll (head :: rest)).get? key =
          ((ofList rest).get? key).or ((d.insert head.1 head.2).get? key) := ih _
      have hempty : (ofList (head :: rest)).get? key =
          ((ofList rest).get? key).or ((empty.insert head.1 head.2).get? key) := ih _
      rw [hfirst, hempty, get?_insert, get?_insert, Option.or_assoc]
      congr 1
      split <;> rfl

/-- A list of entries is read like a first part of it and then the rest, and the rest counts. -/
theorem get?_ofList_append (first rest : List (String × α)) (key : String) :
    (ofList (first ++ rest)).get? key = ((ofList rest).get? key).or ((ofList first).get? key) := by
  have hparts : ofList (first ++ rest) = (ofList first).insertAll rest := List.foldl_append
  rw [hparts, get?_insertAll_ofList]

end Dict

namespace Baggage

/-! ## The entries of a header -/

/-- The entries that a header is read as, one after the other. -/
def entriesOf (header : String) : List (String × String) :=
  (Text.pieces ',' header.toList).filterMap entry?

/-- A header is read as its entries. -/
theorem ofHeader_eq (header : String) : ofHeader header = .ofList (entriesOf header) :=
  rfl

/-- The entries of two texts with a comma between them are those of one and then of the other. -/
theorem entriesOf_append (first rest : String) :
    entriesOf (first ++ "," ++ rest) = entriesOf first ++ entriesOf rest := by
  have htext : (first ++ "," ++ rest).toList = first.toList ++ ',' :: rest.toList := by simp
  rw [entriesOf, htext, Text.pieces_append_cons, List.filterMap_append]
  rfl

/-- The entries of joined texts are those of each text in turn. -/
theorem entriesOf_join (texts : List String) :
    entriesOf (Text.join "," texts) = texts.flatMap entriesOf := by
  induction texts with
  | nil => rfl
  | cons text rest ih =>
      cases rest with
      | nil => simp [Text.join]
      | cons next more =>
          have hjoin : Text.join "," (text :: next :: more) =
              text ++ "," ++ Text.join "," (next :: more) := by
            rw [← String.toList_inj]
            simp [Text.join]
          rw [hjoin, entriesOf_append, ih]
          rfl

/-- A text without commas is one member. -/
theorem entriesOf_member {member : String} (h : ',' ∉ member.toList) :
    entriesOf member = ( entry? member.toList).toList := by
  rw [entriesOf, Text.pieces_of_not_mem h]
  cases hentry : entry? member.toList <;> simp [hentry]

/-- Among other members, one member may take the place of another with the same entries. -/
theorem ofHeader_replace {member other : String} (h : entriesOf member = entriesOf other)
    (before after : List String) :
    ofHeader (Text.join "," (before ++ member :: after)) =
      ofHeader (Text.join "," (before ++ other :: after)) := by
  rw [ofHeader_eq, ofHeader_eq, entriesOf_join, entriesOf_join, List.flatMap_append,
    List.flatMap_append, List.flatMap_cons, List.flatMap_cons, h]

/-- Among other members, one without entries may be left out. -/
theorem ofHeader_skip {member : String} (h : entriesOf member = []) (before after : List String) :
    ofHeader (Text.join "," (before ++ member :: after)) =
      ofHeader (Text.join "," (before ++ after)) := by
  rw [ofHeader_eq, ofHeader_eq, entriesOf_join, entriesOf_join, List.flatMap_append,
    List.flatMap_append, List.flatMap_cons, h, List.nil_append]

/-! ## One member -/

/-- The characters may be a key as it is written: nothing in them ends a key. -/
def IsKeyText (cs : List Char) : Prop :=
  ';' ∉ cs ∧ '=' ∉ cs

/-- `IsKeyText` is decidable by looking at the characters. -/
instance (cs : List Char) : Decidable (IsKeyText cs) :=
  inferInstanceAs (Decidable (_ ∧ _))

/-- A member is read as its key and as what stands before its properties. -/
theorem entry?_of_key {key : List Char} (h : IsKeyText key) (rest : List Char) :
    entry? (key ++ '=' :: rest) = (do
      let key ← part? key
      let value ← part? (Text.before ';' rest)
      if key = "" then none else some (key, value)) := by
  have hbefore : Text.before ';' (key ++ '=' :: rest) = key ++ '=' :: Text.before ';' rest := by
    rw [Text.before_append h.1]
    rfl
  rw [ entry?, hbefore, Text.cutAt?_append h.2]
  rfl

/-- Without an equals sign before its properties a member stands for no entry. -/
theorem entry?_of_not_mem {cs : List Char} (h : '=' ∉ Text.before ';' cs) : entry? cs = none := by
  rw [ entry?, Text.cutAt?_of_not_mem h]
  rfl

/-- Properties make no difference. -/
theorem entry?_append_properties {cs : List Char} (h : ';' ∉ cs) (properties : List Char) :
    entry? (cs ++ ';' :: properties) = entry? cs := by
  rw [ entry?, entry?, Text.before_append_cons h, Text.before_eq_self h]

/-- Gaps are no part of a key. -/
theorem isKeyText_of_gap {gap : List Char} (h : ∀ c ∈ gap, isGap c = true) : IsKeyText gap := by
  refine ⟨fun hmem ↦ ?_, fun hmem ↦ ?_⟩ <;> cases h _ hmem

/-- A key between gaps is still a key. -/
theorem IsKeyText.between_gaps {before cs after : List Char} (h : IsKeyText cs)
    (hbefore : ∀ c ∈ before, isGap c = true) (hafter : ∀ c ∈ after, isGap c = true) :
    IsKeyText (before ++ cs ++ after) := by
  obtain ⟨hsemicolon, hsign⟩ := isKeyText_of_gap hbefore
  obtain ⟨hsemicolon', hsign'⟩ := isKeyText_of_gap hafter
  simp only [IsKeyText, List.mem_append, not_or]
  exact ⟨⟨⟨hsemicolon, h.1⟩, hsemicolon'⟩, ⟨hsign, h.2⟩, hsign'⟩

/-- Gaps alone are read as the empty text. -/
theorem part?_of_gap {gap : List Char} (h : ∀ c ∈ gap, isGap c = true) : part? gap = some "" := by
  rw [part?, Text.dropEnds_eq_nil h]
  exact Text.percentDecode?_percentEncode ""

/-- Gaps around a part make no difference. -/
theorem part?_between_gaps {before cs after : List Char} (hbefore : ∀ c ∈ before, isGap c = true)
    (hafter : ∀ c ∈ after, isGap c = true) : part? (before ++ cs ++ after) = part? cs := by
  rw [part?, part?, Text.dropEnds_between_gaps hbefore hafter]

/-- `IsVoid member` says that a member stands for no entry: it has no equals sign, unless in its
properties, or nothing but gaps for a key, or a key or a value whose bytes are not UTF-8. -/
inductive IsVoid : String → Prop where
  | noSign {member : String} : '=' ∉ Text.before ';' member.toList → IsVoid member
  | noKey {key rest : String} : (∀ c ∈ key.toList, isGap c = true) → IsVoid (key ++ "=" ++ rest)
  | badKey {key rest : String} : IsKeyText key.toList → part? key.toList = none →
      IsVoid (key ++ "=" ++ rest)
  | badValue {key rest : String} : IsKeyText key.toList →
      part? (Text.before ';' rest.toList) = none → IsVoid (key ++ "=" ++ rest)

/-- A member that stands for no entry is read as none. -/
theorem IsVoid.entry?_eq_none {member : String} (h : IsVoid member) :
    entry? member.toList = none := by
  have htext : ∀ key rest : String,
      (key ++ "=" ++ rest).toList = key.toList ++ '=' :: rest.toList := by
    intro key rest
    simp
  cases h with
  | noSign hsign => exact entry?_of_not_mem hsign
  | noKey hgap =>
      rw [htext, entry?_of_key (isKeyText_of_gap hgap), part?_of_gap hgap]
      cases hvalue : part? (Text.before ';' _) <;> simp
  | badKey hkey hbad =>
      rw [htext, entry?_of_key hkey, hbad]
      rfl
  | badValue hkey hbad =>
      rw [htext, entry?_of_key hkey, hbad]
      cases part? _ <;> rfl

/-- `Dresses plain dressed` says that a member has got properties that it did not have, or gaps
around its key and its value. -/
inductive Dresses : String → String → Prop where
  | properties {member properties : String} : ';' ∉ member.toList → ',' ∉ properties.toList →
      Dresses member (member ++ ";" ++ properties)
  | gaps {key value rest a b c d : String} : IsKeyText key.toList → ';' ∉ value.toList →
      (rest = "" ∨ ∃ properties, rest = ";" ++ properties) →
      (∀ gap ∈ [a, b, c, d], ∀ x ∈ gap.toList, isGap x = true) →
      Dresses (key ++ "=" ++ value ++ rest) (a ++ key ++ b ++ "=" ++ c ++ value ++ d ++ rest)

/-- What stands before properties is not changed by them. -/
theorem before_value {value : List Char} (h : ';' ∉ value) {rest : String}
    (hrest : rest = "" ∨ ∃ properties, rest = ";" ++ properties) :
    Text.before ';' (value ++ rest.toList) = value := by
  rcases hrest with rfl | ⟨properties, rfl⟩
  · rw [String.toList_empty, List.append_nil, Text.before_eq_self h]
  · have htext : (";" ++ properties).toList = ';' :: properties.toList := by simp
    rw [htext, Text.before_append_cons h]

/-- A member that was dressed up is read as before. -/
theorem Dresses.entry?_eq {plain dressed : String} (h : Dresses plain dressed) :
    entry? dressed.toList = entry? plain.toList := by
  cases h with
  | @properties member properties hnone _ =>
      have htext : (plain ++ ";" ++ properties).toList =
          plain.toList ++ ';' :: properties.toList := by simp
      rw [htext, entry?_append_properties hnone]
  | @gaps key value rest a b c d hkey hvalue hrest hgaps =>
      obtain ⟨ha, hb, hc, hd⟩ : (∀ x ∈ a.toList, isGap x = true) ∧
          (∀ x ∈ b.toList, isGap x = true) ∧ (∀ x ∈ c.toList, isGap x = true) ∧
            ∀ x ∈ d.toList, isGap x = true := by
        simpa using hgaps
      have hplain : (key ++ "=" ++ value ++ rest).toList =
          key.toList ++ '=' :: (value.toList ++ rest.toList) := by simp
      have hdressed : (a ++ key ++ b ++ "=" ++ c ++ value ++ d ++ rest).toList =
          (a.toList ++ key.toList ++ b.toList) ++
            '=' :: ((c.toList ++ value.toList ++ d.toList) ++ rest.toList) := by simp
      have hnone : ';' ∉ c.toList ++ value.toList ++ d.toList := by
        simp only [List.mem_append, not_or]
        exact ⟨⟨(isKeyText_of_gap hc).1, hvalue⟩, (isKeyText_of_gap hd).1⟩
      rw [hplain, hdressed, entry?_of_key (hkey.between_gaps ha hb), entry?_of_key hkey,
        before_value hnone hrest, before_value hvalue hrest, part?_between_gaps ha hb,
        part?_between_gaps hc hd]

/-- Dressing a member up adds no comma to it. -/
theorem Dresses.not_mem {plain dressed : String} (h : Dresses plain dressed)
    (hplain : ',' ∉ plain.toList) : ',' ∉ dressed.toList := by
  cases h with
  | properties _ hproperties => simpa using ⟨hplain, hproperties⟩
  | @gaps key value rest a b c d _ _ _ hgaps =>
      have hgap : ∀ gap ∈ [a, b, c, d], ',' ∉ gap.toList := fun gap hgap hmem ↦ by
        cases hgaps gap hgap _ hmem
      simp at hplain hgap ⊢
      tauto

/-! ## All members -/

/-- A member of an entry is read as that entry, and two headers with a comma between them are read
as both, the second counting where they share a key. A member that stands for no entry can be left
out anywhere, and one can be given properties or gaps anywhere. -/
theorem members_are_read_apart :
    (∀ entry : String × String, entry.1 ≠ "" → ofHeader (member entry) = .ofList [entry]) ∧
    (∀ (first rest key : String), (ofHeader (first ++ "," ++ rest)).get? key =
      ((ofHeader rest).get? key).or ((ofHeader first).get? key)) ∧
    (∀ (before after : List String) (member : String), ',' ∉ member.toList → IsVoid member →
      ofHeader (Text.join "," (before ++ member :: after)) =
        ofHeader (Text.join "," (before ++ after))) ∧
    ∀ (before after : List String) (plain dressed : String), ',' ∉ plain.toList →
      Dresses plain dressed →
        ofHeader (Text.join "," (before ++ dressed :: after)) =
          ofHeader (Text.join "," (before ++ plain :: after)) := by
  refine ⟨fun entry hkey ↦ ?_, fun first rest key ↦ ?_,
    fun before after member hmember hvoid ↦ ?_,
    fun before after plain dressed hplain hdresses ↦ ?_⟩
  · rw [ofHeader_eq, entriesOf_member (not_mem_member rfl (by decide) entry), entry?_member,
      if_neg hkey]
    rfl
  · rw [ofHeader_eq, entriesOf_append, Dict.get?_ofList_append]
    rfl
  · refine ofHeader_skip ?_ before after
    rw [entriesOf_member hmember, hvoid.entry?_eq_none]
    rfl
  · refine ofHeader_replace ?_ before after
    rw [entriesOf_member hplain, entriesOf_member (hdresses.not_mem hplain), hdresses.entry?_eq]

/-- The header of a sender who means well, and what others have made of it. -/
def demoMembers : List String :=
  ["userId=alice", "serverNode=DF%2028"]

/-- Nothing is lost of a header with properties, gaps, and members that make no sense. -/
theorem stray_members_do_no_harm :
    ',' ∉ "noequals".toList ∧ IsVoid "noequals" ∧ ',' ∉ "bad=%FF".toList ∧ IsVoid "bad=%FF" ∧
      ',' ∉ " =orphan".toList ∧ IsVoid " =orphan" ∧
      ',' ∉ "userId=alice".toList ∧ Dresses "userId=alice" "userId=alice;prop=1" ∧
      ',' ∉ "serverNode=DF%2028".toList ∧
      Dresses "serverNode=DF%2028" " serverNode\t=  DF%2028 " ∧
      ofHeader (Text.join "," ["userId=alice;prop=1", "noequals", " serverNode\t=  DF%2028 ",
          "bad=%FF", " =orphan"]) =
        ofHeader (Text.join "," demoMembers) ∧
      (ofHeader ("userId=bob" ++ "," ++ Text.join "," demoMembers)).get? "userId" =
        some "alice" := by
  have hsign : IsVoid "noequals" := .noSign (by decide)
  have hvalue : IsVoid ("bad" ++ "=" ++ "%FF") := .badValue (by decide) (by decide)
  have hkey : IsVoid (" " ++ "=" ++ "orphan") := .noKey (by simp [isGap])
  have hproperties : Dresses "userId=alice" ("userId=alice" ++ ";" ++ "prop=1") :=
    .properties (by decide) (by decide)
  have hgaps : Dresses ("serverNode" ++ "=" ++ "DF%2028" ++ "")
      (" " ++ "serverNode" ++ "\t" ++ "=" ++ "  " ++ "DF%2028" ++ " " ++ "") :=
    .gaps (by decide) (by decide) (.inl rfl) (by simp [isGap])
  obtain ⟨-, hjoined, hskip, hdress⟩ := members_are_read_apart
  refine ⟨by decide, hsign, by decide, hvalue, by decide, hkey, by decide, hproperties, by decide,
    hgaps, ?_, ?_⟩
  · calc
      ofHeader (Text.join "," ["userId=alice;prop=1", "noequals", " serverNode\t=  DF%2028 ",
          "bad=%FF", " =orphan"]) =
          ofHeader (Text.join "," ["userId=alice", "noequals", " serverNode\t=  DF%2028 ",
            "bad=%FF", " =orphan"]) := hdress [] _ _ _ (by decide) hproperties
      _ = ofHeader (Text.join "," ["userId=alice", "noequals", "serverNode=DF%2028", "bad=%FF",
            " =orphan"]) :=
          hdress ["userId=alice", "noequals"] ["bad=%FF", " =orphan"] _ _ (by decide) hgaps
      _ = ofHeader (Text.join "," ["userId=alice", "serverNode=DF%2028", "bad=%FF", " =orphan"]) :=
          hskip ["userId=alice"] _ _ (by decide) hsign
      _ = ofHeader (Text.join "," ["userId=alice", "serverNode=DF%2028", " =orphan"]) :=
          hskip demoMembers [" =orphan"] _ (by decide) hvalue
      _ = ofHeader (Text.join "," demoMembers) := hskip demoMembers [] _ (by decide) hkey
  · rw [hjoined]
    decide

end Baggage

end Storefront
