import Storefront.Proofs.Trace.Lineage
import Storefront.Proofs.Trace.RoundTrip

/-!
# Relays

A relay reads a context from a carrier and writes it into another one. Whatever was in the first
carrier, whoever reads the second reads exactly what the relay did,
`Carrier.extract_inject_extract`. So reading brings any headers into a form that is written and read
without loss: a parent that is read is valid, remote, and has no flag but one, `Context.IsReceived`;
every state has a header that is read as that state, `TraceState.ofHeader?_header`; and a carrier
takes the characters that it gives, `Carrier.PassesOn`.
-/

namespace Storefront

namespace Text

/-- The characters of a part are among those of the whole. -/
theorem mem_intercalate_of_mem {separator part : List Char} {parts : List (List Char)} {c : Char}
    (hpart : part ∈ parts) (hc : c ∈ part) : c ∈ separator.intercalate parts := by
  induction parts with
  | nil => cases hpart
  | cons head rest ih =>
      cases rest with
      | nil =>
          obtain rfl := List.mem_singleton.mp hpart
          simpa using hc
      | cons next more =>
          rw [List.intercalate_cons_cons]
          rcases List.mem_cons.mp hpart with rfl | hrest
          · exact List.mem_append_left _ (List.mem_append_left _ hc)
          · exact List.mem_append_right _ (ih hrest)

/-- The characters of a piece are among those that were cut. -/
theorem mem_of_mem_terminated {separator : Char} {cs piece : List Char} {c : Char}
    (hpiece : piece ∈ terminated separator cs) (hc : c ∈ piece) : c ∈ cs := by
  have hpieces : piece ∈ pieces separator cs := by
    unfold terminated at hpiece
    dsimp only at hpiece
    split at hpiece
    · exact List.dropLast_subset _ hpiece
    · exact hpiece
  have hjoined : [separator].intercalate (cs.splitOn separator) = cs :=
    List.intercalate_splitOn separator
  rw [← hjoined]
  exact mem_intercalate_of_mem hpieces hc

/-- The characters before and after a cut are among those that were cut. -/
theorem mem_of_cutAt? {separator : Char} {cs first rest : List Char}
    (h : cutAt? separator cs = some (first, rest)) :
    (∀ c ∈ first, c ∈ cs) ∧ ∀ c ∈ rest, c ∈ cs := by
  unfold cutAt? at h
  split at h
  · cases h
  · rename_i hafter
    cases h
    refine ⟨fun c hc ↦ List.takeWhile_subset _ hc, fun c hc ↦ ?_⟩
    refine (List.dropWhile_sublist (· != separator)).subset ?_
    rw [hafter]
    exact List.mem_cons_of_mem _ hc

/-- Texts without the separator, none of them empty, are what is read of them when each is ended by
one. -/
theorem terminated_join {separator : Char} {texts : List String}
    (hfree : ∀ s ∈ texts, separator ∉ s.toList) (hne : ∀ s ∈ texts, s.toList ≠ []) :
    terminated separator (join (String.singleton separator) texts).toList =
      texts.map String.toList := by
  rcases List.eq_nil_or_concat texts with rfl | ⟨before, last, rfl⟩
  · rfl
  · rw [List.concat_eq_append] at hfree hne ⊢
    have hlast : last.toList ≠ [] := hne last (by simp)
    unfold terminated
    rw [pieces_join (by simp) hfree, List.map_append, List.map_singleton]
    simp [hlast]

end Text

namespace TraceState

/-- A state that members make up has these members. -/
theorem members_of_ofMembers? {members : List (String × String)} {s : TraceState}
    (h : ofMembers? members = some s) : s.members = members := by
  unfold ofMembers? at h
  split at h
  · cases h
    rfl
  · cases h

/-- What is read of each of some pieces comes from one of them. -/
theorem exists_of_mapM {pieces : List (List Char)} {members : List (String × String)}
    (h : pieces.mapM member? = some members) {m : String × String} (hm : m ∈ members) :
    ∃ piece ∈ pieces, member? piece = some m := by
  induction pieces generalizing members with
  | nil =>
      cases h
      cases hm
  | cons piece rest ih =>
      rw [List.mapM_cons] at h
      obtain ⟨first, hfirst, h⟩ := Option.bind_eq_some_iff.mp h
      obtain ⟨others, hothers, h⟩ := Option.bind_eq_some_iff.mp h
      cases h
      rcases List.mem_cons.mp hm with rfl | hm
      · exact ⟨piece, List.mem_cons_self, hfirst⟩
      · obtain ⟨other, hmem, hother⟩ := ih hothers hm
        exact ⟨other, List.mem_cons_of_mem _ hmem, hother⟩

/-- The key and the value of a member are made of the characters of the member. -/
theorem mem_of_member? {piece : List Char} {m : String × String} (h : member? piece = some m) :
    (∀ c ∈ m.1.toList, c ∈ piece) ∧ ∀ c ∈ m.2.toList, c ∈ piece := by
  obtain ⟨⟨key, value⟩, hcut, h⟩ := Option.bind_eq_some_iff.mp h
  cases h
  obtain ⟨hkey, hvalue⟩ := Text.mem_of_cutAt? hcut
  refine ⟨fun c hc ↦ hkey c (by simpa using hc), fun c hc ↦ hvalue c ?_⟩
  rw [String.toList_ofList] at hc
  exact (List.dropWhile_sublist _).subset hc

/-- A header of a state that was read is made of the characters that were read and of signs that
every carrier takes. -/
theorem mem_header_of_ofHeader? {header : String} {s : TraceState} (h : ofHeader? header = some s)
    {c : Char} (hc : c ∈ s.header.toList) : c ∈ header.toList ∨ isPlainChar c = true := by
  obtain ⟨members, hmembers, hstate⟩ := Option.bind_eq_some_iff.mp h
  obtain rfl := members_of_ofMembers? hstate
  have hread : ∀ m ∈ s.members, (∀ c ∈ m.1.toList, c ∈ header.toList) ∧
      ∀ c ∈ m.2.toList, c ∈ header.toList := by
    intro m hm
    obtain ⟨piece, hpiece, hmember⟩ := exists_of_mapM hmembers hm
    obtain ⟨hkey, hvalue⟩ := mem_of_member? hmember
    exact ⟨fun c hc ↦ Text.mem_of_mem_terminated hpiece (hkey c hc),
      fun c hc ↦ Text.mem_of_mem_terminated hpiece (hvalue c hc)⟩
  rw [TraceState.header, Text.join, String.toList_intercalate] at hc
  rcases Text.mem_intercalate hc with hcomma | ⟨part, hpart, hc⟩
  · obtain rfl := List.mem_singleton.mp hcomma
    exact .inr rfl
  obtain ⟨text, htext, rfl⟩ := List.mem_map.mp hpart
  obtain ⟨m, hm, rfl⟩ := List.mem_map.mp htext
  rw [String.toList_append, String.toList_append] at hc
  rcases List.mem_append.mp hc with hc | hvalue
  · rcases List.mem_append.mp hc with hkey | hsign
    · exact .inl ((hread m hm).1 c hkey)
    · obtain rfl := List.mem_singleton.mp hsign
      exact .inr rfl
  · exact .inl ((hread m hm).2 c hvalue)

/-- Neither the key nor the value of a member holds a separator. -/
theorem IsMember.separators {m : String × String} (h : IsMember m) :
    (',' ∉ m.1.toList ∧ '=' ∉ m.1.toList) ∧ ',' ∉ m.2.toList ∧ '=' ∉ m.2.toList := by
  obtain ⟨hkey, hvalue⟩ := h
  have hchars : m.1.toList.all isKeyChar = true := by
    unfold isKey at hkey
    simp only [Bool.and_eq_true] at hkey
    exact hkey.1.1.2
  have hnone : ∀ c, isKeyChar c = false → c ∉ m.1.toList := by
    intro c hc hmem
    rw [List.all_eq_true.mp hchars c hmem] at hc
    cases hc
  have hvalues : ',' ∉ m.2.toList ∧ '=' ∉ m.2.toList := by
    unfold isValue at hvalue
    simp only [Bool.and_eq_true, Bool.not_eq_true', List.contains_eq_mem, decide_eq_false_iff_not]
      at hvalue
    exact ⟨hvalue.1.2, hvalue.2⟩
  exact ⟨⟨hnone ',' rfl, hnone '=' rfl⟩, hvalues⟩

/-- A member is read as the key and the value that it was made from. -/
theorem member?_text {m : String × String} (h : IsMember m) :
    member? (m.1 ++ "=" ++ m.2).toList = some m := by
  obtain ⟨⟨-, hkey⟩, -, hvalue⟩ := h.separators
  have htext : (m.1 ++ "=" ++ m.2).toList = m.1.toList ++ '=' :: m.2.toList := by simp
  have hvalue' : m.2.toList.dropWhile (· == '=') = m.2.toList := by
    refine List.dropWhile_eq_self_iff.mpr fun hlength ↦ ?_
    intro hsign
    exact hvalue (eq_of_beq hsign ▸ List.getElem_mem hlength)
  rw [member?, htext, Text.cutAt?_append hkey]
  show some (String.ofList m.1.toList, String.ofList (m.2.toList.dropWhile (· == '='))) = some m
  rw [hvalue', String.ofList_toList, String.ofList_toList]

/-- The header of a state is read as the state. -/
theorem ofHeader?_header (s : TraceState) : ofHeader? s.header = some s := by
  obtain ⟨members, hvalid⟩ := s
  have hfree : ∀ text ∈ members.map fun m ↦ m.1 ++ "=" ++ m.2, ',' ∉ text.toList := by
    intro text htext
    obtain ⟨m, hm, rfl⟩ := List.mem_map.mp htext
    obtain ⟨⟨hkey, -⟩, hvalue, -⟩ := (hvalid m hm).separators
    simp [hkey, hvalue]
  have hne : ∀ text ∈ members.map fun m ↦ m.1 ++ "=" ++ m.2, text.toList ≠ [] := by
    intro text htext
    obtain ⟨m, -, rfl⟩ := List.mem_map.mp htext
    simp
  have hread : ∀ ms : List (String × String), (∀ m ∈ ms, IsMember m) →
      ((ms.map fun m ↦ m.1 ++ "=" ++ m.2).map String.toList).mapM member? = some ms := by
    intro ms hms
    induction ms with
    | nil => rfl
    | cons m rest ih =>
        obtain ⟨hm, hrest⟩ := List.forall_mem_cons.mp hms
        rw [List.map_cons, List.map_cons, List.mapM_cons, member?_text hm, ih hrest]
        rfl
  have hterminated := Text.terminated_join hfree hne
  unfold ofHeader? TraceState.header
  show (Text.terminated ',' (Text.join (String.singleton ',') _).toList).mapM member? >>= _ = _
  rw [hterminated, hread members hvalid]
  exact dif_pos hvalid

end TraceState

namespace SpanContext

/-- A number that is read is not zero. -/
theorem ne_zero_of_readId? {width : Nat} {cs : List Char} {id : BitVec width}
    (h : readId? width cs = some id) : id ≠ 0 := by
  obtain ⟨-, h⟩ := Option.ite_none_left_eq_some.mp h
  obtain ⟨n, hread, h⟩ := Option.bind_eq_some_iff.mp h
  obtain ⟨hne, hid⟩ := Option.ite_none_left_eq_some.mp h
  obtain ⟨m, -, hbounded⟩ := Option.bind_eq_some_iff.mp hread
  obtain ⟨hlt, hm⟩ := Option.ite_none_right_eq_some.mp hbounded
  cases hm
  cases hid
  intro hzero
  have htoNat : n % Nat.pow 2 width = 0 := congrArg BitVec.toNat hzero
  rw [Nat.mod_eq_of_lt hlt] at htoNat
  exact hne htoNat

/-- What is read of a header are two numbers that are not zero. -/
theorem ne_zero_of_readTraceparent? {header : String} {traceId : TraceId} {spanId : SpanId}
    {sampled : Bool} (h : readTraceparent? header = some (traceId, spanId, sampled)) :
    traceId ≠ 0 ∧ spanId ≠ 0 := by
  unfold readTraceparent? at h
  split at h
  · obtain ⟨version, -, h⟩ := Option.bind_eq_some_iff.mp h
    obtain ⟨-, h⟩ := Option.ite_none_left_eq_some.mp h
    obtain ⟨trace, htrace, h⟩ := Option.bind_eq_some_iff.mp h
    obtain ⟨span, hspan, h⟩ := Option.bind_eq_some_iff.mp h
    obtain ⟨flags, -, h⟩ := Option.bind_eq_some_iff.mp h
    obtain ⟨-, h⟩ := Option.ite_none_left_eq_some.mp h
    cases h
    exact ⟨ne_zero_of_readId? htrace, ne_zero_of_readId? hspan⟩
  · cases h

/-- What is read of two headers is a remote place that is valid, and has no flag but one. -/
theorem of_ofHeaders? {parent state : Option String} {c : SpanContext}
    (h : ofHeaders? parent state = some c) :
    c.isValid = true ∧ c.isRemote = true ∧ c.flags = flagsOf c.isSampled ∧
      (c.state = .empty ∨ ∃ header, state = some header ∧
        TraceState.ofHeader? header = some c.state) := by
  obtain ⟨header, -, h⟩ := Option.bind_eq_some_iff.mp h
  obtain ⟨⟨traceId, spanId, sampled⟩, hread, h⟩ := Option.bind_eq_some_iff.mp h
  cases h
  refine ⟨isValid_iff.mpr (ne_zero_of_readTraceparent? hread), rfl, ?_, ?_⟩
  · exact congrArg flagsOf (isSampled_flagsOf traceId spanId sampled true _).symm
  · dsimp only
    cases hstate : state >>= TraceState.ofHeader? with
    | none => exact .inl rfl
    | some s =>
        obtain ⟨text, htext, htold⟩ := Option.bind_eq_some_iff.mp hstate
        exact .inr ⟨text, htext, htold⟩

end SpanContext

namespace Baggage

/-- What is read of a header has no entry under the empty key. -/
theorem get?_ofHeader_empty (header : String) : (ofHeader header).get? "" = none := by
  have hkeys : ∀ entry ∈ (Text.pieces ',' header.toList).filterMap entry?, entry.1 ≠ "" := by
    intro entry hentry
    obtain ⟨piece, -, hread⟩ := List.mem_filterMap.mp hentry
    obtain ⟨_, -, hread⟩ := Option.bind_eq_some_iff.mp hread
    obtain ⟨key, -, hread⟩ := Option.bind_eq_some_iff.mp hread
    obtain ⟨value, -, hread⟩ := Option.bind_eq_some_iff.mp hread
    obtain ⟨hkey, hread⟩ := Option.ite_none_left_eq_some.mp hread
    cases hread
    exact hkey
  exact Dict.get?_insertAll_of_forall_ne hkeys Dict.empty

end Baggage

/-- A context as it is read: the parent is valid, remote, and has no flag but the one that says
whether the trace is recorded, and no entry of the baggage is under the empty key. -/
structure Context.IsReceived (context : Context) : Prop where
  parent : ∀ p, context.parent = some p →
    p.isValid = true ∧ p.isRemote = true ∧ p.flags = SpanContext.flagsOf p.isSampled
  baggage : context.baggage.get? "" = none

namespace Carrier

variable {C : Type} [Carrier C]

/-- A context that is read from a carrier is a context as it is read. -/
theorem isReceived_extract (carrier : C) : (extract carrier).IsReceived := by
  refine ⟨fun p hp ↦ ?_, ?_⟩
  · obtain ⟨hvalid, hremote, hflags, -⟩ := SpanContext.of_ofHeaders? hp
    exact ⟨hvalid, hremote, hflags⟩
  · unfold extract
    dsimp only
    cases get? carrier Baggage.headerName with
    | none => rfl
    | some header => exact Baggage.get?_ofHeader_empty header

/-- A carrier passes on a class of characters, among them the plain ones: it gives no others, and it
takes every header that is made of them. -/
structure PassesOn (C : Type) [Carrier C] (passes : Char → Bool) : Prop where
  plain : ∀ c, isPlainChar c = true → passes c = true
  gives : ∀ (carrier : C) {name value : String}, get? carrier name = some value →
    value.toList.all passes = true
  takes : ∀ (carrier : C) {name value : String}, name ∈ headerNames →
    value.toList.all passes = true → get? (set carrier name value) name = some value

/-- Call metadata passes on every character. -/
theorem passesOn_callMetadata : PassesOn CallMetadata fun _ ↦ true where
  plain _ _ := rfl
  gives _ _ _ _ := List.all_eq_true.mpr fun _ _ ↦ rfl
  takes carrier _ _ _ _ := (carrier.get?_insert ..).trans (if_pos rfl)

/-- Record headers pass on every character. -/
theorem passesOn_recordHeaders : PassesOn RecordHeaders fun _ ↦ true where
  plain _ _ := rfl
  gives _ _ _ _ := List.all_eq_true.mpr fun _ _ ↦ rfl
  takes carrier name value _ _ := by
    show (RecordHeaders.find? (carrier.insert name (Text.utf8 value)) name) >>= _ = _
    rw [RecordHeaders.find?_insert, if_pos rfl]
    exact Text.ofUtf8?_utf8 value

/-- A map passes on every character. -/
theorem passesOn_nameMap : PassesOn NameMap fun _ ↦ true where
  plain _ _ := rfl
  gives _ _ _ _ := List.all_eq_true.mpr fun _ _ ↦ rfl
  takes carrier _ _ _ _ := (carrier.get?_set ..).trans (if_pos rfl)

/-- A character all of whose bytes are visible. -/
def isVisibleChar (c : Char) : Bool :=
  (String.utf8EncodeChar c).all HeaderFields.isVisible

/-- A visible byte may be in a field. -/
theorem isValueByte_of_isVisible {b : UInt8} (h : HeaderFields.isVisible b = true) :
    HeaderFields.isValueByte b = true := by
  unfold HeaderFields.isVisible at h
  unfold HeaderFields.isValueByte
  simp only [Bool.or_eq_true, Bool.and_eq_true, decide_eq_true_eq, bne_iff_ne] at h ⊢
  rcases h with ⟨hlow, hhigh⟩ | htab
  · refine .inl ⟨hlow, ?_⟩
    rintro rfl
    exact absurd hhigh (by decide)
  · exact .inr htab

/-- Header fields pass on visible characters. -/
theorem passesOn_headerFields : PassesOn HeaderFields isVisibleChar where
  plain c hplain := by
    obtain ⟨b, hencode, hvisible, -⟩ := utf8EncodeChar_of_isPlainChar hplain
    rw [isVisibleChar, hencode, List.all_cons, hvisible]
    rfl
  gives carrier name value h := by
    obtain ⟨bytes, -, h⟩ := Option.bind_eq_some_iff.mp h
    obtain ⟨hvisible, htext⟩ := Option.ite_none_right_eq_some.mp h
    rw [← Text.utf8_of_ofUtf8? htext, Text.utf8, List.all_flatMap] at hvisible
    exact hvisible
  takes carrier name value hname hvisible := by
    have hisName : ∀ n ∈ headerNames, HeaderFields.isName n = true := by decide
    have hbytes : (Text.utf8 value).all HeaderFields.isVisible = true := by
      rw [Text.utf8, List.all_flatMap]
      exact hvisible
    have hvalue : (Text.utf8 value).all HeaderFields.isValueByte = true :=
      List.all_eq_true.mpr fun b hb ↦
        isValueByte_of_isVisible (List.all_eq_true.mp hbytes b hb)
    show (HeaderFields.set carrier name value).get? name = _
    rw [HeaderFields.get?_set, hisName name hname, hvalue, hbytes]
    simp

/-- After a valid parent was put into an empty carrier, the header of its state is there. -/
theorem get?_stateHeader_inject (hfaithful : IsFaithful C) {passes : Char → Bool}
    (hpasses : PassesOn C passes) {context : Context} {p : SpanContext}
    (hparent : context.validParent? = some p)
    (hstate : p.state.header.toList.all passes = true) (carrier : C) :
    get? (inject context carrier) SpanContext.stateHeader = some p.state.header := by
  unfold inject
  rw [hparent]
  dsimp only
  have hput := hpasses.takes (set carrier SpanContext.parentHeader p.traceparent)
    (show SpanContext.stateHeader ∈ headerNames by decide) hstate
  cases context.baggage.header? with
  | none => exact hput
  | some header =>
      dsimp only
      rw [hfaithful.get?_set_ne _ _ (by decide) (by decide) (by decide)]
      exact hput

/-- A carrier that keeps headers apart and passes on a class of characters loses nothing of a
context as it is read, if its state is made of such characters. -/
theorem extract_inject_of_isReceived (hfaithful : IsFaithful C) {passes : Char → Bool}
    (hpasses : PassesOn C passes) {context : Context} (hreceived : context.IsReceived)
    (hstate : ∀ p, context.parent = some p → p.state.header.toList.all passes = true) :
    extract (inject context (empty : C)) = context := by
  have harrives := hfaithful.arrives context
  have hbaggage : (extract (inject context (empty : C))).baggage = context.baggage :=
    harrives.baggage.trans (Dict.erase_eq_self hreceived.baggage)
  have hparent : (extract (inject context (empty : C))).parent = context.parent := by
    cases hparent : context.parent with
    | none => exact harrives.orphan fun p hp ↦ nomatch hparent.symm.trans hp
    | some p =>
        obtain ⟨hvalid, hremote, hflags⟩ := hreceived.parent p hparent
        have hsent : context.validParent? = some p := by
          rw [Context.validParent?, hparent]
          exact Option.filter_some_pos hvalid
        have hnumbers := get?_parentHeader_inject hfaithful context (empty : C)
        rw [hsent, Option.map_some, Option.some_or] at hnumbers
        have htold := get?_stateHeader_inject hfaithful hpasses hsent (hstate p hparent) (empty : C)
        show SpanContext.ofHeaders? _ _ = _
        rw [hnumbers, htold, SpanContext.ofHeaders?_traceparent hvalid, ← hflags, ← hremote]
        show some (⟨_, _, _, _, (TraceState.ofHeader? p.state.header).getD .empty⟩ : SpanContext) =
          _
        rw [TraceState.ofHeader?_header]
        rfl
  obtain ⟨parent, baggage⟩ := context
  exact congr (congrArg Context.mk hparent) hbaggage

/-- A carrier that keeps headers apart and passes on what it gives is relayed without loss. -/
theorem IsFaithful.relays (hfaithful : IsFaithful C) {passes : Char → Bool}
    (hpasses : PassesOn C passes) (carrier : C) :
    extract (inject (extract carrier) (empty : C)) = extract carrier := by
  refine extract_inject_of_isReceived hfaithful hpasses (isReceived_extract carrier) fun p hp ↦ ?_
  obtain ⟨-, -, -, hstate⟩ := SpanContext.of_ofHeaders? hp
  refine List.all_eq_true.mpr fun c hc ↦ ?_
  rcases hstate with hempty | ⟨header, hheader, hread⟩
  · rw [hempty] at hc
    cases hc
  · rcases TraceState.mem_header_of_ofHeader? hread hc with hgiven | hplain
    · exact List.all_eq_true.mp (hpasses.gives carrier hheader) c hgiven
    · exact hpasses.plain c hplain

/-- What is read of a carrier of any kind, whatever it holds, is what is read again when it has been
written into an empty carrier of that kind: the same parent or none, and the same baggage. -/
theorem extract_inject_extract :
    (∀ carrier : CallMetadata,
      extract (inject (extract carrier) CallMetadata.empty) = extract carrier) ∧
    (∀ carrier : HeaderFields,
      extract (inject (extract carrier) HeaderFields.empty) = extract carrier) ∧
    (∀ carrier : RecordHeaders,
      extract (inject (extract carrier) RecordHeaders.empty) = extract carrier) ∧
    ∀ carrier : NameMap,
      extract (inject (extract carrier) NameMap.empty) = extract carrier :=
  ⟨isFaithful_callMetadata.relays passesOn_callMetadata,
    isFaithful_headerFields.relays passesOn_headerFields,
    isFaithful_recordHeaders.relays passesOn_recordHeaders,
    isFaithful_nameMap.relays passesOn_nameMap⟩

end Carrier

end Storefront
