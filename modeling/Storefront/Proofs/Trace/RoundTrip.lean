import Mathlib
import Storefront.Proofs.Trace.Baggage
import Storefront.Trace.Carrier

/-!
# Contexts survive carriers

A context that is written into an empty carrier and read from it again has the same baggage and a
remote parent at the same place, `Carrier.extract_inject_arrives`. What is needed of a carrier is
that it keeps the three headers of a context apart, `Carrier.IsFaithful`, and each of the four kinds
does. Header fields refuse some texts, so the headers have to be made of plain characters.
-/

namespace Storefront

/-- A character that every carrier takes: it is shown as one of ASCII. -/
def isPlainChar (c : Char) : Bool :=
  32 ≤ c.toNat && c.toNat < 127

namespace SpanContext

/-- A plus sign is dropped only where there is one. -/
theorem dropPlus_eq_self {cs : List Char} (h : '+' ∉ cs) : Text.dropPlus cs = cs := by
  unfold Text.dropPlus
  split
  · exact absurd List.mem_cons_self h
  · rfl

/-- A hexadecimal digit as it is written is plain, and neither a capital, nor a blank, nor a
sign. -/
theorem digit_spec {c : Char} (h : ∃ d < 16, c = Nat.digitChar d) :
    c.isUpper = false ∧ Text.isBlank c = false ∧ c ≠ '+' ∧ c ≠ '-' ∧ isPlainChar c = true := by
  obtain ⟨d, hd, rfl⟩ := h
  interval_cases d <;> decide

/-- A written number of a trace or of a span is read as the number, unless it is zero. -/
theorem readId?_hexPadded {width : Nat} (digits : Nat) {id : BitVec width} (h : id ≠ 0) :
    readId? width (Text.hexPadded digits id.toNat).toList = some id := by
  rw [Text.hexPadded, String.toList_ofList]
  have hdigits : ∀ c ∈ Text.padZeros digits (Nat.toDigits 16 id.toNat), _ := fun c hc ↦
    digit_spec (Text.exists_digit_of_mem_padZeros (by decide) hc)
  have hupper : (Text.padZeros digits (Nat.toDigits 16 id.toNat)).any Char.isUpper = false :=
    List.any_eq_false.mpr fun c hc ↦ by simp [(hdigits c hc).1]
  have hplus : '+' ∉ Text.padZeros digits (Nat.toDigits 16 id.toNat) := fun hc ↦
    (hdigits '+' hc).2.2.1 rfl
  have hread : readHex? (Nat.pow 2 width) (Text.padZeros digits (Nat.toDigits 16 id.toNat)) =
      some id.toNat := by
    rw [readHex?, dropPlus_eq_self hplus, Text.hexadecimal?_padZeros]
    exact if_pos id.isLt
  have hne : id.toNat ≠ 0 := fun hzero ↦ h (BitVec.eq_of_toNat_eq (by simpa using hzero))
  rw [readId?, hupper, hread]
  simp [hne]

/-- The last part of the header. -/
def flagText (sampled : Bool) : String :=
  if sampled then "01" else "00"

/-- The header is made of four parts. -/
theorem traceparent_eq (c : SpanContext) :
    c.traceparent = Text.join (String.singleton '-')
      ["00", c.traceId.text, c.spanId.text, flagText c.isSampled] := by
  rw [← String.toList_inj]
  simp [traceparent, Text.join, flagText]

/-- A part of the header is made of plain characters, and holds neither a hyphen nor a blank. -/
theorem mem_part {c : SpanContext} {part : String} {x : Char}
    (hpart : part ∈ ["00", c.traceId.text, c.spanId.text, flagText c.isSampled])
    (hx : x ∈ part.toList) : Text.isBlank x = false ∧ x ≠ '-' ∧ isPlainChar x = true := by
  have hflag : ∀ sampled, x ∈ (flagText sampled).toList → x = '0' ∨ x = '1' := by
    intro sampled h
    cases sampled <;> simp_all [flagText]
  have hhex : ∀ digits n, x ∈ (Text.hexPadded digits n).toList →
      Text.isBlank x = false ∧ x ≠ '-' ∧ isPlainChar x = true := by
    intro digits n h
    rw [Text.hexPadded, String.toList_ofList] at h
    have hspec := digit_spec (Text.exists_digit_of_mem_padZeros (by decide) h)
    exact ⟨hspec.2.1, hspec.2.2.2⟩
  simp only [List.mem_cons, List.not_mem_nil, or_false] at hpart
  rcases hpart with rfl | rfl | rfl | rfl
  · rcases hflag false hx with rfl | rfl <;> decide
  · exact hhex 32 _ hx
  · exact hhex 16 _ hx
  · rcases hflag _ hx with rfl | rfl <;> decide

/-- The header is made of plain characters and holds no blank. -/
theorem mem_traceparent {c : SpanContext} {x : Char} (hx : x ∈ c.traceparent.toList) :
    Text.isBlank x = false ∧ isPlainChar x = true := by
  rw [traceparent_eq, Text.join, String.toList_intercalate] at hx
  rcases Text.mem_intercalate hx with hhyphen | ⟨cs, hcs, hx⟩
  · rw [List.mem_singleton.mp hhyphen]
    decide
  · obtain ⟨part, hpart, rfl⟩ := List.mem_map.mp hcs
    obtain ⟨hblank, -, hplain⟩ := mem_part hpart hx
    exact ⟨hblank, hplain⟩

/-- The header of a valid place is read as its numbers and whether the trace is recorded. -/
theorem readTraceparent?_traceparent {c : SpanContext} (h : c.isValid = true) :
    readTraceparent? c.traceparent = some (c.traceId, c.spanId, c.isSampled) := by
  obtain ⟨htrace, hspan⟩ : c.traceId ≠ 0 ∧ c.spanId ≠ 0 := by simpa [isValid] using h
  have hparts : ∀ part ∈ ["00", c.traceId.text, c.spanId.text, flagText c.isSampled],
      '-' ∉ part.toList := fun _ hpart hhyphen ↦ (mem_part hpart hhyphen).2.1 rfl
  have hpieces := Text.pieces_join (List.cons_ne_nil _ _) hparts
  rw [← traceparent_eq] at hpieces
  have hblank : ∀ x ∈ c.traceparent.toList, Text.isBlank x = false :=
    fun x hx ↦ (mem_traceparent hx).1
  have hterminated : Text.terminated '-' (Text.dropEnds Text.isBlank c.traceparent.toList) =
      ["00".toList, c.traceId.text.toList, c.spanId.text.toList,
        (flagText c.isSampled).toList] := by
    rw [Text.dropEnds_eq_self hblank, Text.terminated, hpieces]
    cases c.isSampled <;> rfl
  have hflags : readHex? 256 (flagText c.isSampled).toList =
      some (if c.isSampled then 1 else 0) := by
    cases c.isSampled <;> rfl
  have hversion : readHex? 255 "00".toList = some 0 := rfl
  rw [readTraceparent?, hterminated]
  simp only [hversion, hflags, TraceId.text, SpanId.text, readId?_hexPadded 32 htrace,
    readId?_hexPadded 16 hspan, bind, Option.bind]
  cases c.isSampled <;> simp

/-- The headers of a valid place are read as a remote place with the same numbers. -/
theorem ofHeaders?_traceparent {c : SpanContext} (h : c.isValid = true) (state : Option String) :
    ofHeaders? (some c.traceparent) state =
      some ⟨c.traceId, c.spanId, flagsOf c.isSampled, true,
        (state >>= TraceState.ofHeader?).getD .empty⟩ := by
  simp only [ofHeaders?, bind, Option.bind, readTraceparent?_traceparent h]
  rfl

/-- The flags say whether the trace is recorded. -/
theorem isSampled_flagsOf (trace : TraceId) (span : SpanId) (sampled isRemote : Bool)
    (state : TraceState) :
    (⟨trace, span, flagsOf sampled, isRemote, state⟩ : SpanContext).isSampled = sampled := by
  have hflags : ∀ b, (flagsOf b &&& 1 == 1) = b := by decide
  exact hflags sampled

end SpanContext

/-- The names of the headers of a context. -/
def headerNames : List String :=
  [SpanContext.parentHeader, SpanContext.stateHeader, Baggage.headerName]

namespace Carrier

/-- A carrier keeps the headers of a context apart: it holds none at the start, a plain text is
found under the name under which it was put, and nothing else changes. -/
structure IsFaithful (C : Type) [Carrier C] : Prop where
  get?_empty : ∀ name, get? (empty : C) name = none
  get?_set : ∀ (carrier : C) {name value : String}, name ∈ headerNames →
    value.toList.all isPlainChar = true → get? (set carrier name value) name = some value
  get?_set_ne : ∀ (carrier : C) {name other : String} (value : String), name ∈ headerNames →
    other ∈ headerNames → other ≠ name → get? (set carrier name value) other = get? carrier other

end Carrier

/-- Call metadata has one text under a name in which one was put. -/
theorem CallMetadata.get?_insert (m : CallMetadata) (name other value : String) :
    (m.insert name value).get? other =
      if foldCase name = foldCase other then some value else m.get? other := by
  unfold get? getAll insert
  rw [Dict.get?_insert]
  split <;> rfl

/-- Header fields have one visible text under a name in which one was put, if they take both. -/
theorem HeaderFields.get?_set (f : HeaderFields) (name other value : String) :
    (f.set name value).get? other =
      if isName name && (Text.utf8 value).all isValueByte && foldCase name == foldCase other then
        if (Text.utf8 value).all isVisible then some value else none
      else f.get? other := by
  unfold set
  by_cases htaken : (isName name && (Text.utf8 value).all isValueByte) = true
  · rw [if_pos htaken, htaken, Bool.true_and]
    by_cases hname : foldCase name = foldCase other
    · simp [get?, getAll, Dict.get?_insert, hname, Text.ofUtf8?_utf8]
    · simp [get?, getAll, Dict.get?_insert, hname]
  · rw [if_neg htaken, Bool.eq_false_iff.mpr htaken]
    rfl

/-- Record headers have the bytes under a name that were put there last. -/
theorem RecordHeaders.find?_insert (h : RecordHeaders) (name other : String) (value : List UInt8) :
    (h.insert name value).find? other = if name = other then some value else h.find? other := by
  unfold find? insert
  rw [List.find?_append]
  by_cases hname : name = other
  -- What was there before has been taken out, so the last entry is the first one of the name.
  · have hnone : (h.entries.filter fun e ↦ e.1 != name).find? (fun e ↦ e.1 == other) = none := by
      rw [List.find?_eq_none]
      intro e he
      simpa [hname] using (List.mem_filter.mp he).2
    rw [hnone]
    simp [hname]
  · have hsame : (h.entries.filter fun e ↦ e.1 != name).find? (fun e ↦ e.1 == other) =
        h.entries.find? fun e ↦ e.1 == other := by
      rw [List.find?_filter]
      refine congrArg (List.find? · h.entries) (funext fun e ↦ ?_)
      by_cases he : e.1 = other
      · simp [he, Ne.symm hname]
      · simp [he]
    simp [hsame, hname]

/-- A map has one text under a name in which one was put. -/
theorem NameMap.get?_set (m : NameMap) (name other value : String) :
    (m.set name value).get? other =
      if Text.lowerCase name = Text.lowerCase other then some value else m.get? other :=
  Dict.get?_insert m.entries _ _ value

namespace Carrier

/-- A plain character is written as one byte. -/
theorem utf8EncodeChar_of_isPlainChar {c : Char} (h : isPlainChar c = true) :
    ∃ b : UInt8, String.utf8EncodeChar c = [b] ∧ HeaderFields.isVisible b = true ∧
      HeaderFields.isValueByte b = true := by
  obtain ⟨hlow, hhigh⟩ : 32 ≤ c.toNat ∧ c.toNat < 127 := by simpa [isPlainChar] using h
  have hbyte : ∀ n < 127, 32 ≤ n → HeaderFields.isVisible (UInt8.ofNat n) = true ∧
      HeaderFields.isValueByte (UInt8.ofNat n) = true := by decide
  refine ⟨UInt8.ofNat c.toNat, ?_, hbyte _ hhigh hlow⟩
  have hshort : c.val.toNat ≤ 127 := Nat.le_of_lt hhigh
  simp only [String.utf8EncodeChar, if_pos hshort]
  rfl

/-- The bytes of a plain text are shown as characters. -/
theorem all_isVisible_of_plain {value : String} (h : value.toList.all isPlainChar = true) :
    (Text.utf8 value).all HeaderFields.isVisible = true ∧
      (Text.utf8 value).all HeaderFields.isValueByte = true := by
  have hbyte : ∀ b ∈ Text.utf8 value,
      HeaderFields.isVisible b = true ∧ HeaderFields.isValueByte b = true := by
    intro b hb
    obtain ⟨c, hc, hb⟩ := List.mem_flatMap.mp hb
    obtain ⟨byte, hencode, hspec⟩ :=
      utf8EncodeChar_of_isPlainChar (List.all_eq_true.mp h c hc)
    rw [hencode] at hb
    rw [List.mem_singleton.mp hb]
    exact hspec
  exact ⟨List.all_eq_true.mpr fun b hb ↦ (hbyte b hb).1,
    List.all_eq_true.mpr fun b hb ↦ (hbyte b hb).2⟩

/-- The names of the headers are in small letters. -/
theorem foldCase_headerName : ∀ name ∈ headerNames, foldCase name = name := by
  decide

/-- The names of the headers are in small letters of any script. -/
theorem lowerCase_headerName : ∀ name ∈ headerNames, Text.lowerCase name = name := by
  decide

/-- The names of the headers differ, whatever the case of their letters. -/
theorem foldCase_injOn {name other : String} (hname : name ∈ headerNames)
    (hother : other ∈ headerNames) (h : foldCase name = foldCase other) : name = other := by
  rwa [foldCase_headerName name hname, foldCase_headerName other hother] at h

/-- The names of the headers differ, whatever the case of their letters in any script. -/
theorem lowerCase_injOn {name other : String} (hname : name ∈ headerNames)
    (hother : other ∈ headerNames) (h : Text.lowerCase name = Text.lowerCase other) :
    name = other := by
  rwa [lowerCase_headerName name hname, lowerCase_headerName other hother] at h

/-- Call metadata keeps headers apart. -/
theorem isFaithful_callMetadata : IsFaithful CallMetadata where
  get?_empty _ := rfl
  get?_set carrier _ _ _ _ := (carrier.get?_insert ..).trans (if_pos rfl)
  get?_set_ne carrier _ _ value hname hother hne :=
    (carrier.get?_insert _ _ value).trans
      (if_neg fun h ↦ hne (foldCase_injOn hname hother h).symm)

/-- Header fields keep headers apart. -/
theorem isFaithful_headerFields : IsFaithful HeaderFields where
  get?_empty _ := rfl
  get?_set carrier name value hname hplain := by
    obtain ⟨hvisible, hvalue⟩ := all_isVisible_of_plain hplain
    have hisName : ∀ n ∈ headerNames, HeaderFields.isName n = true := by decide
    show (HeaderFields.set carrier name value).get? name = _
    rw [HeaderFields.get?_set, hisName name hname, hvalue, hvisible]
    simp
  get?_set_ne carrier name other value hname hother hne := by
    have hfold : (foldCase name == foldCase other) = false :=
      beq_false_of_ne fun h ↦ hne (foldCase_injOn hname hother h).symm
    show (HeaderFields.set carrier name value).get? other = _
    rw [HeaderFields.get?_set, hfold, Bool.and_false]
    rfl

/-- Record headers keep headers apart. -/
theorem isFaithful_recordHeaders : IsFaithful RecordHeaders where
  get?_empty _ := rfl
  get?_set carrier name value _ _ := by
    show (RecordHeaders.find? (carrier.insert name (Text.utf8 value)) name) >>= _ = _
    rw [RecordHeaders.find?_insert, if_pos rfl]
    exact Text.ofUtf8?_utf8 value
  get?_set_ne carrier name other value _ _ hne := by
    show (RecordHeaders.find? (carrier.insert name (Text.utf8 value)) other) >>= _ = _
    rw [RecordHeaders.find?_insert, if_neg hne.symm]
    rfl

/-- A map keeps headers apart. -/
theorem isFaithful_nameMap : IsFaithful NameMap where
  get?_empty _ := rfl
  get?_set carrier _ _ _ _ := (carrier.get?_set ..).trans (if_pos rfl)
  get?_set_ne carrier _ _ value hname hother hne :=
    (carrier.get?_set _ _ value).trans
      (if_neg fun h ↦ hne (lowerCase_injOn hname hother h).symm)

variable {C : Type} [Carrier C]

/-- The characters of a written place are plain. -/
theorem all_isPlainChar_traceparent (c : SpanContext) :
    c.traceparent.toList.all isPlainChar = true :=
  List.all_eq_true.mpr fun _ hx ↦ (SpanContext.mem_traceparent hx).2

/-- A character of percent encoding is plain. -/
theorem isPlainChar_of_isPercentChar {c : Char} (h : Text.isPercentChar c = true) :
    isPlainChar c = true := by
  have hclass : c.isAlphanum = true ∨ c ∈ ['-', '_', '.', '~', '%'] := by
    simpa [Text.isPercentChar, Text.isUnreserved, or_assoc] using h
  rcases hclass with halphanum | hmark
  · have hrange : 48 ≤ c.toNat ∧ c.toNat ≤ 122 := by
      simp only [Char.isAlphanum, Char.isAlpha, Char.isUpper, Char.isLower, Char.isDigit,
        Bool.or_eq_true, Bool.and_eq_true, decide_eq_true_eq, ge_iff_le, UInt32.le_iff_toNat_le]
        at halphanum
      simp only [← Char.toNat.eq_1] at halphanum
      simp at halphanum ⊢
      omega
    simp only [isPlainChar, Bool.and_eq_true, decide_eq_true_eq]
    omega
  · have hplain : ['-', '_', '.', '~', '%'].all isPlainChar = true := by decide
    exact List.all_eq_true.mp hplain c hmark

/-- The characters of a header of baggage are plain. -/
theorem all_isPlainChar_header {b : Baggage} {header : String} (h : b.header? = some header) :
    header.toList.all isPlainChar = true := by
  refine List.all_eq_true.mpr fun x hx ↦ ?_
  rcases Baggage.mem_header h hx with hpercent | rfl | rfl
  · exact isPlainChar_of_isPercentChar hpercent
  · rfl
  · rfl

/-- After a context was put into a carrier, the header of its parent is there. -/
theorem get?_parentHeader_inject (hfaithful : IsFaithful C) (context : Context) (carrier : C) :
    get? (inject context carrier) SpanContext.parentHeader =
      (context.validParent?.map SpanContext.traceparent).or
        (get? carrier SpanContext.parentHeader) := by
  have hbaggage : ∀ (c : C) (header : String),
      get? (set c Baggage.headerName header) SpanContext.parentHeader =
        get? c SpanContext.parentHeader := fun c header ↦
    hfaithful.get?_set_ne c header (by decide) (by decide) (by decide)
  unfold inject
  cases context.validParent? with
  | none =>
      cases context.baggage.header? with
      | none => rfl
      | some header => exact hbaggage carrier header
  | some parent =>
      -- The state is put in after the numbers and does not touch them.
      have hnumbers : get? (set (set carrier SpanContext.parentHeader parent.traceparent)
          SpanContext.stateHeader parent.state.header) SpanContext.parentHeader =
            some parent.traceparent := by
        rw [hfaithful.get?_set_ne _ _ (by decide) (by decide) (by decide)]
        exact hfaithful.get?_set _ (by decide) (all_isPlainChar_traceparent parent)
      cases context.baggage.header? with
      | none => exact hnumbers
      | some header => exact (hbaggage _ header).trans hnumbers

/-- After a context was put into a carrier, the header of its baggage is there. -/
theorem get?_headerName_inject (hfaithful : IsFaithful C) (context : Context) (carrier : C) :
    get? (inject context carrier) Baggage.headerName =
      context.baggage.header?.or (get? carrier Baggage.headerName) := by
  unfold inject
  cases hheader : context.baggage.header? with
  | some header => exact hfaithful.get?_set _ (by decide) (all_isPlainChar_header hheader)
  | none =>
      cases context.validParent? with
      | none => rfl
      | some parent =>
          dsimp only
          rw [hfaithful.get?_set_ne _ _ (by decide) (by decide) (by decide),
            hfaithful.get?_set_ne _ _ (by decide) (by decide) (by decide)]
          rfl

end Carrier

/-- What is received of a context that was sent. -/
structure Context.Arrives (sent received : Context) : Prop where
  /-- A valid parent arrives as a remote one at the same place. -/
  parent : ∀ p, sent.parent = some p → p.isValid = true → ∃ q, received.parent = some q ∧
    q.isRemote = true ∧ q.traceId = p.traceId ∧ q.spanId = p.spanId ∧ q.isSampled = p.isSampled
  /-- Without a valid parent none arrives. -/
  orphan : (∀ p, sent.parent = some p → p.isValid = false) → received.parent = none
  /-- All entries arrive, but for one under the empty key. -/
  baggage : received.baggage = sent.baggage.erase ""

namespace Carrier

variable {C : Type} [Carrier C]

/-- A context arrives by any carrier that keeps headers apart. -/
theorem IsFaithful.arrives (hfaithful : IsFaithful C) (context : Context) :
    context.Arrives (extract (inject context (empty : C))) := by
  have hparent := get?_parentHeader_inject hfaithful context (empty : C)
  have hbaggage := get?_headerName_inject hfaithful context (empty : C)
  rw [hfaithful.get?_empty, Option.or_none] at hparent hbaggage
  refine ⟨fun p hp hvalid ↦ ?_, fun hinvalid ↦ ?_, ?_⟩
  · have hsent : context.validParent? = some p := by
      rw [Context.validParent?, hp]
      exact Option.filter_some_pos hvalid
    rw [hsent, Option.map_some] at hparent
    have hreceived := SpanContext.ofHeaders?_traceparent hvalid
      (get? (inject context (empty : C)) SpanContext.stateHeader)
    rw [← hparent] at hreceived
    exact ⟨_, hreceived, rfl, rfl, rfl, SpanContext.isSampled_flagsOf ..⟩
  · have hsent : context.validParent? = none :=
      Option.filter_eq_none_iff.mpr fun p hp ↦ by simp [hinvalid p hp]
    rw [hsent, Option.map_none] at hparent
    simp only [extract, hparent, SpanContext.ofHeaders?, bind, Option.bind]
  · simp only [extract, hbaggage]
    cases hheader : context.baggage.header? with
    | none => exact (Baggage.erase_of_header?_eq_none hheader).symm
    | some header => exact Baggage.ofHeader_header hheader

/-- A context arrives by each kind of carrier, whatever texts its baggage holds and however many. -/
theorem extract_inject_arrives (context : Context) :
    context.Arrives (extract (inject context CallMetadata.empty)) ∧
    context.Arrives (extract (inject context HeaderFields.empty)) ∧
    context.Arrives (extract (inject context RecordHeaders.empty)) ∧
    context.Arrives (extract (inject context NameMap.empty)) :=
  ⟨isFaithful_callMetadata.arrives context, isFaithful_headerFields.arrives context,
    isFaithful_recordHeaders.arrives context, isFaithful_nameMap.arrives context⟩

end Carrier

end Storefront
