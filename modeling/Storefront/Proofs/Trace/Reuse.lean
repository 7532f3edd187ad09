import Storefront.Proofs.Trace.Headers
import Storefront.Proofs.Trace.Journey

/-!
# Carriers that were used before

A context may be written into a carrier that is not empty: a request that is sent again, or one with
headers of its own. Whatever was in the carrier, what is read from it afterwards is what would be
read from a new one, and other headers are as before: `Carrier.inject_forgets`. A context is written
as a few headers, `inject_eq_foldl`, so what none of them changes is not changed,
`inject_preserves`. Header fields may refuse a state, and then an old one stays; that is the only
exception.
-/

namespace Storefront

namespace Context

/-- The headers that a context is written as, in order. -/
def headers (c : Context) : List (String × String) :=
  (c.validParent?.toList.flatMap fun parent ↦
      [(SpanContext.parentHeader, parent.traceparent),
        (SpanContext.stateHeader, parent.state.header)]) ++
    c.baggage.header?.toList.map fun header ↦ (Baggage.headerName, header)

/-- The headers of a context have the names of such headers. -/
theorem name_of_mem_headers {c : Context} {header : String × String} (h : header ∈ c.headers) :
    header.1 ∈ headerNames := by
  unfold headers at h
  rcases List.mem_append.mp h with h | h
  · obtain ⟨parent, -, h⟩ := List.mem_flatMap.mp h
    rcases List.mem_pair.mp h with rfl | rfl
    · exact .head _
    · exact .tail _ (.head _)
  · obtain ⟨text, -, rfl⟩ := List.mem_map.mp h
    exact .tail _ (.tail _ (.head _))

/-- The context but for the state that comes with its parent. -/
def withoutState (c : Context) : Context :=
  { c with parent := c.parent.map fun parent ↦ { parent with state := .empty } }

end Context

namespace Carrier

variable {C : Type} [Carrier C] {context : Context} {parent : SpanContext} {header : String}

/-- A context is written by putting its headers one after the other. -/
theorem inject_eq_foldl (context : Context) (carrier : C) :
    inject context carrier = context.headers.foldl (fun c e ↦ set c e.1 e.2) carrier := by
  unfold inject Context.headers
  cases context.validParent? <;> cases context.baggage.header? <;> rfl

/-- What is seen of a carrier and does not change with any header of a context does not change when
a context is written. -/
theorem inject_preserves {β : Type} (view : C → β)
    (hset : ∀ (carrier : C) (name value : String), name ∈ headerNames →
      view (set carrier name value) = view carrier) (context : Context) (carrier : C) :
    view (inject context carrier) = view carrier := by
  -- The headers are put one by one, each into what the ones before it have left.
  have hput : ∀ headers : List (String × String), (∀ e ∈ headers, e.1 ∈ headerNames) →
      ∀ carrier : C, view (headers.foldl (fun c e ↦ set c e.1 e.2) carrier) = view carrier := by
    intro headers hnames
    induction headers with
    | nil => exact fun _ ↦ rfl
    | cons e rest ih =>
        obtain ⟨hname, hrest⟩ := List.forall_mem_cons.mp hnames
        exact fun carrier ↦ (ih hrest _).trans (hset carrier e.1 e.2 hname)
  rw [inject_eq_foldl]
  exact hput context.headers (fun _ ↦ Context.name_of_mem_headers) carrier

/-- What is read after a context with a valid parent and some baggage was written does not depend on
what was there, but for the state. -/
theorem extract_inject_eq (hfaithful : IsFaithful C) (hparent : context.validParent? = some parent)
    (hheader : context.baggage.header? = some header) (carrier : C) :
    extract (inject context carrier) =
      ⟨SpanContext.ofHeaders? (some parent.traceparent)
        (get? (inject context carrier) SpanContext.stateHeader), Baggage.ofHeader header⟩ := by
  unfold extract
  rw [get?_parentHeader_inject hfaithful, get?_headerName_inject hfaithful, hparent, hheader]
  rfl

/-- `Replaces carrier context view others` says what is left of a carrier when a context is written
into it. The context is read as from a new carrier, as far as the view goes, so it arrives; and
under other names there is what was there. -/
structure Replaces (carrier : C) (context : Context) (view : Context → Context)
    (others : String → Prop) : Prop where
  same : view (extract (inject context carrier)) = view (extract (inject context (empty : C)))
  arrives : context.Arrives (extract (inject context carrier))
  others : ∀ name, others name → get? (inject context carrier) name = get? carrier name

/-- A context with a valid parent and some baggage arrives, whatever was in the carrier. -/
theorem IsFaithful.arrives_again (hfaithful : IsFaithful C)
    (hparent : context.validParent? = some parent)
    (hheader : context.baggage.header? = some header) (carrier : C) :
    context.Arrives (extract (inject context carrier)) := by
  obtain ⟨hp, hvalid⟩ := Option.filter_eq_some_iff.mp hparent
  rw [extract_inject_eq hfaithful hparent hheader,
    SpanContext.ofHeaders?_traceparent hvalid]
  refine ⟨fun p hsent _ ↦ ?_, fun hnone ↦ ?_, Baggage.ofHeader_header hheader⟩
  · cases hp.symm.trans hsent
    exact ⟨_, rfl, rfl, rfl, rfl, SpanContext.isSampled_flagsOf ..⟩
  · exact absurd hvalid (by simp [hnone parent hp])

/-- What is read is the same up to the state, whatever was in the carrier. -/
theorem IsFaithful.withoutState_eq (hfaithful : IsFaithful C)
    (hparent : context.validParent? = some parent)
    (hheader : context.baggage.header? = some header) (carrier : C) :
    (extract (inject context carrier)).withoutState =
      (extract (inject context (empty : C))).withoutState := by
  obtain ⟨-, hvalid⟩ := Option.filter_eq_some_iff.mp hparent
  rw [extract_inject_eq hfaithful hparent hheader, extract_inject_eq hfaithful hparent hheader,
    SpanContext.ofHeaders?_traceparent hvalid, SpanContext.ofHeaders?_traceparent hvalid]
  rfl

/-- What is read is the same, whatever was in the carrier, if the carrier takes the state. -/
theorem PassesOn.extract_eq {passes : Char → Bool} (hpasses : PassesOn C passes)
    (hfaithful : IsFaithful C) (hparent : context.validParent? = some parent)
    (hheader : context.baggage.header? = some header)
    (hstate : parent.state.header.toList.all passes = true) (carrier : C) :
    extract (inject context carrier) = extract (inject context (empty : C)) := by
  rw [extract_inject_eq hfaithful hparent hheader, extract_inject_eq hfaithful hparent hheader,
    get?_stateHeader_inject hfaithful hpasses hparent hstate,
    get?_stateHeader_inject hfaithful hpasses hparent hstate]

/-- A name that is none of the headers in small letters differs from them in any letters. -/
theorem foldCase_ne {name other : String} (hname : name ∈ headerNames)
    (hother : foldCase other ∉ headerNames) : ¬ foldCase name = foldCase other := by
  rw [foldCase_headerName name hname]
  rintro rfl
  exact hother hname

/-- Writing a context leaves all texts under other names of call metadata. -/
theorem getAll_inject_callMetadata {name : String} (h : foldCase name ∉ headerNames)
    (context : Context) (m : CallMetadata) : (inject context m).getAll name = m.getAll name :=
  inject_preserves (fun m : CallMetadata ↦ m.getAll name)
    (fun m written value hname ↦
      (m.getAll_insert written name value).trans (if_neg (foldCase_ne hname h))) context m

/-- Writing a context leaves all values under other names of header fields. -/
theorem getAll_inject_headerFields {name : String} (h : foldCase name ∉ headerNames)
    (context : Context) (f : HeaderFields) : (inject context f).getAll name = f.getAll name := by
  refine inject_preserves (fun f : HeaderFields ↦ f.getAll name) ?_ context f
  intro f written value hname
  by_cases htakes : HeaderFields.Takes written value
  · exact (f.fieldLaw.getAll_set written value htakes name).trans (if_neg (foldCase_ne hname h))
  · exact congrArg (HeaderFields.getAll · name) (f.fieldLaw.refused written value htakes)

/-- Writing a context leaves the bytes under other names of record headers. -/
theorem find?_inject_recordHeaders {name : String} (h : name ∉ headerNames) (context : Context)
    (r : RecordHeaders) : (inject context r).find? name = r.find? name := by
  refine inject_preserves (fun r : RecordHeaders ↦ r.find? name) ?_ context r
  intro r written value hname
  have hne : written ≠ name := fun heq ↦ h (heq ▸ hname)
  exact (r.find?_insert written name (Text.utf8 value)).trans (if_neg hne)

/-- Writing a context leaves the texts under other keys of a map, in whatever letters. -/
theorem get?_inject_nameMap {key : String} (h : key ∉ headerNames) (context : Context)
    (m : NameMap) : (inject context m).entries.get? key = m.entries.get? key := by
  refine inject_preserves (fun m : NameMap ↦ m.entries.get? key) ?_ context m
  intro m written value hname
  have hne : Text.lowerCase written ≠ key := by
    rw [lowerCase_headerName written hname]
    rintro rfl
    exact h hname
  exact (Dict.get?_insert m.entries _ key value).trans (if_neg hne)

/-- Where a context with a valid parent and some baggage is written, nothing shows what was under
its headers before, in however many values or whatever letters, and nothing else is changed. A state
that header fields do not show is the only thing that they may not replace. -/
theorem inject_forgets {context : Context} {parent : SpanContext}
    (hparent : context.parent = some parent) (hvalid : parent.isValid = true)
    (hbaggage : context.baggage.isEmpty = false) :
    (∀ m : CallMetadata, Replaces m context id (fun name ↦ foldCase name ∉ headerNames) ∧
      ∀ name, foldCase name ∉ headerNames → (inject context m).getAll name = m.getAll name) ∧
    (∀ f : HeaderFields,
      Replaces f context Context.withoutState (fun name ↦ foldCase name ∉ headerNames) ∧
      (∀ name, foldCase name ∉ headerNames → (inject context f).getAll name = f.getAll name) ∧
      (parent.state.header.toList.all isVisibleChar = true →
        extract (inject context f) = extract (inject context HeaderFields.empty))) ∧
    (∀ r : RecordHeaders, Replaces r context id (fun name ↦ name ∉ headerNames) ∧
      ∀ name, name ∉ headerNames → (inject context r).find? name = r.find? name) ∧
    ∀ m : NameMap, Replaces m context id (fun name ↦ Text.lowerCase name ∉ headerNames) ∧
      ∀ key, key ∉ headerNames → (inject context m).entries.get? key = m.entries.get? key := by
  have hsent : context.validParent? = some parent := by
    rw [Context.validParent?, hparent]
    exact Option.filter_some_pos hvalid
  obtain ⟨header, hheader⟩ : ∃ header, context.baggage.header? = some header := by
    unfold Baggage.header?
    rw [hbaggage]
    exact ⟨_, rfl⟩
  have hall : parent.state.header.toList.all (fun _ ↦ true) = true :=
    List.all_eq_true.mpr fun _ _ ↦ rfl
  refine ⟨fun m ↦ ⟨⟨?_, ?_, fun name hname ↦ ?_⟩, fun name hname ↦ ?_⟩,
    fun f ↦ ⟨⟨?_, ?_, fun name hname ↦ ?_⟩, fun name hname ↦ ?_, fun hstate ↦ ?_⟩,
    fun r ↦ ⟨⟨?_, ?_, fun name hname ↦ ?_⟩, fun name hname ↦ ?_⟩,
    fun m ↦ ⟨⟨?_, ?_, fun name hname ↦ ?_⟩, fun key hkey ↦ ?_⟩⟩
  · exact passesOn_callMetadata.extract_eq isFaithful_callMetadata hsent hheader hall m
  · exact isFaithful_callMetadata.arrives_again hsent hheader m
  · exact congrArg List.head? (getAll_inject_callMetadata hname context m)
  · exact getAll_inject_callMetadata hname context m
  · exact isFaithful_headerFields.withoutState_eq hsent hheader f
  · exact isFaithful_headerFields.arrives_again hsent hheader f
  · show HeaderFields.get? _ _ = HeaderFields.get? _ _
    unfold HeaderFields.get?
    rw [getAll_inject_headerFields hname context f]
  · exact getAll_inject_headerFields hname context f
  · exact passesOn_headerFields.extract_eq isFaithful_headerFields hsent hheader hstate f
  · exact passesOn_recordHeaders.extract_eq isFaithful_recordHeaders hsent hheader hall r
  · exact isFaithful_recordHeaders.arrives_again hsent hheader r
  · exact congrArg (· >>= Text.ofUtf8?) (find?_inject_recordHeaders hname context r)
  · exact find?_inject_recordHeaders hname context r
  · exact passesOn_nameMap.extract_eq isFaithful_nameMap hsent hheader hall m
  · exact isFaithful_nameMap.arrives_again hsent hheader m
  · exact get?_inject_nameMap hname context m
  · exact get?_inject_nameMap hkey context m

/-- Metadata of an earlier call, with baggage under names in several letters. -/
def usedMetadata : CallMetadata :=
  (((CallMetadata.empty.insert "TraceParent" "00-01-02-00").append "BAGGAGE" "tenant=red").append
    "baggage" "rank=9").insert "X-Request-Id" "7"

/-- Fields of an earlier request, with two values of baggage. -/
def usedFields : HeaderFields :=
  .ofList [("Baggage", Text.utf8 "tenant=red"), ("X-Request-Id", Text.utf8 "7"),
    ("baggage", Text.utf8 "rank=9")]

/-- Headers of an earlier record. -/
def usedHeaders : RecordHeaders :=
  RecordHeaders.empty.insertAll [("Baggage", Text.utf8 "rank=9"),
    ("baggage", Text.utf8 "tenant=red"), ("x-request-id", Text.utf8 "7")]

/-- A map that was made by hand. -/
def usedMap : NameMap :=
  ⟨.ofList [("Baggage", "rank=9"), ("baggage", "tenant=red"), ("x-request-id", "7")]⟩

/-- Baggage that was there can be read, and cannot once a context was written, while the header that
has nothing to do with it can be read as before. -/
theorem used_carriers_forget :
    Context.demoOrigin.parent = some Context.demoPlace ∧ Context.demoPlace.isValid = true ∧
      Context.demoOrigin.baggage.isEmpty = false ∧
      (extract usedMetadata).baggage.get? "tenant" = some "red" ∧
      extract (inject Context.demoOrigin usedMetadata) =
        extract (inject Context.demoOrigin CallMetadata.empty) ∧
      get? (inject Context.demoOrigin usedMetadata) "x-request-id" = some "7" ∧
      (extract usedFields).baggage.get? "tenant" = some "red" ∧
      extract (inject Context.demoOrigin usedFields) =
        extract (inject Context.demoOrigin HeaderFields.empty) ∧
      get? (inject Context.demoOrigin usedFields) "x-request-id" = some "7" ∧
      (extract usedHeaders).baggage.get? "tenant" = some "red" ∧
      extract (inject Context.demoOrigin usedHeaders) =
        extract (inject Context.demoOrigin RecordHeaders.empty) ∧
      get? (inject Context.demoOrigin usedHeaders) "x-request-id" = some "7" ∧
      (extract usedMap).baggage.get? "tenant" = some "red" ∧
      extract (inject Context.demoOrigin usedMap) =
        extract (inject Context.demoOrigin NameMap.empty) ∧
      get? (inject Context.demoOrigin usedMap) "x-request-id" = some "7" := by
  have hparent : Context.demoOrigin.parent = some Context.demoPlace := rfl
  have hvalid : Context.demoPlace.isValid = true := rfl
  have hbaggage : Context.demoOrigin.baggage.isEmpty = false := rfl
  obtain ⟨hmetadata, hfields, hheaders, hmap⟩ := inject_forgets hparent hvalid hbaggage
  obtain ⟨hmetadata, -⟩ := hmetadata usedMetadata
  obtain ⟨hfields, -, hstate⟩ := hfields usedFields
  obtain ⟨hheaders, -⟩ := hheaders usedHeaders
  obtain ⟨hmap, -⟩ := hmap usedMap
  refine ⟨hparent, hvalid, hbaggage, by decide, hmetadata.same, ?_, by decide, hstate rfl, ?_,
    by decide, hheaders.same, ?_, by decide, hmap.same, ?_⟩
  · exact (hmetadata.others _ (by decide)).trans (by decide)
  · exact (hfields.others _ (by decide)).trans (by decide)
  · exact (hheaders.others _ (by decide)).trans (by decide)
  · exact (hmap.others _ (by decide)).trans (by decide)

end Carrier

end Storefront
