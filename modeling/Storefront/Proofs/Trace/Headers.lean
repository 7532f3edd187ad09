import Storefront.Proofs.Trace.Relay

/-!
# Putting headers into carriers

What a carrier tells after anything was done to it. A text that is put under a name is found under
every name that is the same for that carrier, and nothing else changes, `Carrier.SetLaw`. Which
names are the same differs: call metadata and header fields do not look at the case of letters,
record headers do. Call metadata also remembers what was added since, `CallMetadata.Recalls`, and
record headers keep the order in which they were put in, `RecordHeaders.latest`.

Header fields refuse what is no field name or holds a byte that no field value may contain. A value
with bytes beyond ASCII is neither refused nor shown: it takes the place of what was there and is
read as nothing, `HeaderFields.FieldLaw`. The main statement is `Carrier.contents_obey_set`.
-/

namespace Storefront

/-- Letters that are small stay as they are. -/
@[simp] theorem foldCase_foldCase (name : String) : foldCase (foldCase name) = foldCase name := by
  have hchar : Char.toLower ∘ Char.toLower = Char.toLower :=
    funext Char.toLower_toLower_eq_toLower
  rw [foldCase, foldCase, String.toList_ofList, List.map_map, hchar]

namespace Dict

variable {α : Type}

/-- All keys are names in small letters. -/
def IsFolded (d : Dict α) : Prop :=
  ∀ key ∈ d.keys, foldCase key = key

/-- There is no key that is not in small letters where there is none. -/
theorem isFolded_empty : (empty : Dict α).IsFolded :=
  nofun

/-- A name that is put in small letters leaves all keys in small letters. -/
theorem IsFolded.insert {d : Dict α} (h : d.IsFolded) (name : String) (value : α) :
    (d.insert (foldCase name) value).IsFolded := by
  intro key hkey
  obtain ⟨entry, hentry, rfl⟩ := List.mem_map.mp hkey
  rcases mem_put hentry with rfl | hold
  · exact foldCase_foldCase name
  · exact h entry.1 (List.mem_map_of_mem hold)

/-- Of names that are the same but for the case of their letters one at most is a key. -/
theorem IsFolded.nodup {d : Dict α} (h : d.IsFolded) : (d.keys.map foldCase).Nodup := by
  rw [List.map_congr_left h, List.map_id']
  exact d.nodup_keys

/-- Where something is found under a name in small letters, a key is the same but for the case of
its letters. -/
theorem mem_folded_of_get? {d : Dict α} {name : String} {value : α}
    (h : d.get? (foldCase name) = some value) : foldCase name ∈ d.keys.map foldCase := by
  have hkey : foldCase name ∈ d.keys := List.mem_map_of_mem (mem_of_lookup h)
  exact List.mem_map.mpr ⟨foldCase name, hkey, foldCase_foldCase name⟩

end Dict

namespace Carrier

variable {C : Type} [Carrier C]

/-- `carrier.SetLaw same shows` says what a carrier tells about its names and what putting a text
under one of them changes. The text is found under every name that is the same, if the carrier
shows it, and what is found under other names stays. Of names that are the same one at most is
listed, and one is where there is a text. -/
structure SetLaw (carrier : C) (same : String → String) (shows : String → String → Prop) :
    Prop where
  get?_set : ∀ name value, shows name value → ∀ other,
    get? (set carrier name value) other =
      if same name = same other then some value else get? carrier other
  nodup_names : ((names carrier).map same).Nodup
  mem_names : ∀ name value, get? carrier name = some value → same name ∈ (names carrier).map same

end Carrier

/-! ## Call metadata -/

namespace CallMetadata

/-- What is done to call metadata. To put a text under a name is to insert it. -/
inductive Operation where
  | insert (name value : String)
  | append (name value : String)

/-- The metadata that an operation leaves. -/
def after (m : CallMetadata) : Operation → CallMetadata
  | .insert name value => m.insert name value
  | .append name value => m.append name value

namespace Operation

/-- A text is inserted under a name, whatever the case of its letters. -/
def InsertsUnder (name : String) : Operation → Prop
  | .insert written _ => foldCase written = foldCase name
  | .append .. => False

/-- The text that is added under a name, if one is, whatever the case of its letters. -/
def addedUnder? (name : String) : Operation → Option String
  | .insert .. => none
  | .append written value => if foldCase written = foldCase name then some value else none

end Operation

/-- `m.Recalls operations` says that there is under a name the text that was inserted last, followed
by those that were added since, or all that were added if none was ever inserted; and that the first
of them is told. -/
structure Recalls (m : CallMetadata) (operations : List Operation) : Prop where
  inserted : ∀ name before written value since,
    operations = before ++ .insert written value :: since → foldCase written = foldCase name →
      (∀ operation ∈ since, ¬ operation.InsertsUnder name) →
        m.getAll name = value :: since.filterMap (Operation.addedUnder? name)
  added : ∀ name, (∀ operation ∈ operations, ¬ operation.InsertsUnder name) →
    m.getAll name = operations.filterMap (Operation.addedUnder? name)
  first : ∀ name, m.get? name = (m.getAll name).head?

/-- An insertion leaves one text under its name and touches no other. -/
theorem getAll_insert (m : CallMetadata) (name other value : String) :
    (m.insert name value).getAll other =
      if foldCase name = foldCase other then [value] else m.getAll other := by
  unfold getAll insert
  rw [Dict.get?_insert]
  split <;> rfl

/-- An addition leaves one more text under its name and touches no other. -/
theorem getAll_append (m : CallMetadata) (name other value : String) :
    (m.append name value).getAll other =
      if foldCase name = foldCase other then m.getAll other ++ [value] else m.getAll other := by
  unfold getAll append
  rw [Dict.get?_insert]
  split
  · rename_i hsame
    rw [Option.getD_some, getAll, hsame]
  · rfl

/-- While nothing is inserted under a name, the texts under it are those there were and those that
are added. -/
theorem getAll_foldl {operations : List Operation} {name : String}
    (h : ∀ operation ∈ operations, ¬ operation.InsertsUnder name) (m : CallMetadata) :
    (operations.foldl after m).getAll name =
      m.getAll name ++ operations.filterMap (Operation.addedUnder? name) := by
  induction operations generalizing m with
  | nil => exact (List.append_nil _).symm
  | cons operation rest ih =>
      obtain ⟨hhead, hrest⟩ := List.forall_mem_cons.mp h
      rw [List.foldl_cons, ih hrest, List.filterMap_cons]
      cases operation with
      | insert written value =>
          have hother : ¬ foldCase written = foldCase name := hhead
          rw [after, getAll_insert, if_neg hother]
          rfl
      | append written value =>
          rw [after, getAll_append, Operation.addedUnder?]
          split
          · rw [List.append_assoc]
            rfl
          · rfl

/-- Metadata recalls everything that was done to it. -/
theorem recalls_foldl (operations : List Operation) :
    (operations.foldl after empty).Recalls operations where
  inserted name before written value since hoperations hname hsince := by
    rw [hoperations, List.foldl_append, List.foldl_cons, getAll_foldl hsince, after, getAll_insert,
      if_pos hname]
    rfl
  added name h := getAll_foldl h empty
  first _ := rfl

/-- All names are kept in small letters. -/
theorem isFolded_foldl (operations : List Operation) {m : CallMetadata}
    (h : m.entries.IsFolded) : (operations.foldl after m).entries.IsFolded := by
  induction operations generalizing m with
  | nil => exact h
  | cons operation rest ih =>
      cases operation with
      | insert name value => exact ih (h.insert name [value])
      | append name value => exact ih (h.insert name (m.getAll name ++ [value]))

/-- Metadata to which anything was done obeys the law. -/
theorem setLaw_foldl (operations : List Operation) :
    Carrier.SetLaw (operations.foldl after empty) foldCase fun _ _ ↦ True where
  get?_set name value _ other := get?_insert _ name other value
  nodup_names := (isFolded_foldl operations Dict.isFolded_empty).nodup
  mem_names name value h := by
    have hsome : get? (operations.foldl after empty) name = some value := h
    unfold get? getAll at hsome
    cases hentry : (operations.foldl after empty).entries.get? (foldCase name) with
    | none =>
        rw [hentry] at hsome
        cases hsome
    | some values => exact Dict.mem_folded_of_get? hentry

end CallMetadata

/-! ## Header fields -/

namespace HeaderFields

/-- What is done to header fields: they are taken from elsewhere, whatever there is, or a text is
put under a name. -/
inductive Operation where
  | load (fields : List (String × List UInt8))
  | set (name value : String)

/-- The fields that an operation leaves. -/
def after (f : HeaderFields) : Operation → HeaderFields
  | .load fields => ofList fields
  | .set name value => f.set name value

/-- The name is a field name and the value may be in a field. -/
def Takes (name value : String) : Prop :=
  isName name = true ∧ (Text.utf8 value).all isValueByte = true

/-- The name is a field name and all of the value is visible. -/
def Shows (name value : String) : Prop :=
  isName name = true ∧ (Text.utf8 value).all isVisible = true

/-- `f.FieldLaw` says what becomes of a text that is not shown. If it is not taken nothing changes.
Otherwise its bytes take the place of all that was under the name, where they are read as nothing,
and what is under other names stays. -/
structure FieldLaw (f : HeaderFields) : Prop where
  refused : ∀ name value, ¬ Takes name value → f.set name value = f
  hidden : ∀ name value, Takes name value → ¬ Shows name value → ∀ other,
    (f.set name value).get? other =
      if foldCase name = foldCase other then none else f.get? other
  getAll_set : ∀ name value, Takes name value → ∀ other,
    (f.set name value).getAll other =
      if foldCase name = foldCase other then [Text.utf8 value] else f.getAll other

/-- What is visible may be in a field. -/
theorem Shows.takes {name value : String} (h : Shows name value) : Takes name value := by
  have hbytes : ∀ b ∈ Text.utf8 value, isVisible b = true := List.all_eq_true.mp h.2
  exact ⟨h.1, List.all_eq_true.mpr fun b hb ↦ Carrier.isValueByte_of_isVisible (hbytes b hb)⟩

/-- A text that is shown is found under every name that is the same. -/
theorem get?_set_of_shows {name value : String} (h : Shows name value) (f : HeaderFields)
    (other : String) :
    (f.set name value).get? other =
      if foldCase name = foldCase other then some value else f.get? other := by
  rw [get?_set, h.1, h.takes.2, h.2, if_pos rfl, Bool.true_and, Bool.true_and]
  simp only [beq_iff_eq]

/-- Header fields obey their law. -/
theorem fieldLaw (f : HeaderFields) : f.FieldLaw where
  refused name value h := by
    unfold set
    refine if_neg fun htaken ↦ h ?_
    simpa [Takes] using htaken
  hidden name value htakes hhidden other := by
    have hvisible : (Text.utf8 value).all isVisible = false :=
      Bool.eq_false_iff.mpr fun hall ↦ hhidden ⟨htakes.1, hall⟩
    rw [get?_set, htakes.1, htakes.2, hvisible, Bool.true_and, Bool.true_and]
    simp
  getAll_set name value htakes other := by
    unfold set getAll
    rw [htakes.1, htakes.2, Bool.true_and, if_pos rfl, Dict.get?_insert]
    split <;> rfl

/-- All names are kept in small letters when a value is added. -/
theorem isFolded_append {f : HeaderFields} (h : f.entries.IsFolded) (name : String)
    (value : List UInt8) : (f.append name value).entries.IsFolded := by
  unfold append
  split
  · exact h.insert name _
  · exact h

/-- All names are kept in small letters when a text is put under one. -/
theorem isFolded_set {f : HeaderFields} (h : f.entries.IsFolded) (name value : String) :
    (f.set name value).entries.IsFolded := by
  unfold set
  split
  · exact h.insert name _
  · exact h

/-- All names are kept in small letters when fields are taken from elsewhere. -/
theorem isFolded_ofList (fields : List (String × List UInt8)) :
    (ofList fields).entries.IsFolded := by
  have hfields : ∀ f : HeaderFields, f.entries.IsFolded →
      (fields.foldl (fun f e ↦ f.append e.1 e.2) f).entries.IsFolded := by
    induction fields with
    | nil => exact fun _ h ↦ h
    | cons field rest ih => exact fun _ h ↦ ih _ (isFolded_append h field.1 field.2)
  exact hfields empty Dict.isFolded_empty

/-- All names are kept in small letters. -/
theorem isFolded_foldl (operations : List Operation) {f : HeaderFields}
    (h : f.entries.IsFolded) : (operations.foldl after f).entries.IsFolded := by
  induction operations generalizing f with
  | nil => exact h
  | cons operation rest ih =>
      cases operation with
      | load fields => exact ih (isFolded_ofList fields)
      | set name value => exact ih (isFolded_set h name value)

/-- Header fields to which anything was done obey the law for what is shown. -/
theorem setLaw_foldl (operations : List Operation) :
    Carrier.SetLaw (operations.foldl after empty) foldCase Shows where
  get?_set _ _ hshows other := get?_set_of_shows hshows _ other
  nodup_names := (isFolded_foldl operations Dict.isFolded_empty).nodup
  mem_names name value h := by
    obtain ⟨bytes, hbytes, -⟩ := Option.bind_eq_some_iff.mp h
    unfold getAll at hbytes
    cases hentry : (operations.foldl after empty).entries.get? (foldCase name) with
    | none =>
        rw [hentry] at hbytes
        cases hbytes
    | some values => exact Dict.mem_folded_of_get? hentry

end HeaderFields

/-! ## Record headers -/

namespace RecordHeaders

/-- The headers when some bytes were put under their names one after the other. -/
def insertAll (h : RecordHeaders) (insertions : List (String × List UInt8)) : RecordHeaders :=
  insertions.foldl (fun h e ↦ h.insert e.1 e.2) h

/-- The insertions after which there was none under the same name, in order. -/
def latest : List (String × List UInt8) → List (String × List UInt8)
  | [] => []
  | e :: later => if later.any (·.1 == e.1) then latest later else e :: latest later

/-- An insertion is the latest one under its name, and takes the place of others under it. -/
theorem latest_append_singleton (insertions : List (String × List UInt8)) (name : String)
    (value : List UInt8) :
    latest (insertions ++ [(name, value)]) =
      (latest insertions).filter (fun e ↦ e.1 != name) ++ [(name, value)] := by
  induction insertions with
  | nil => rfl
  | cons e later ih =>
      rw [List.cons_append, latest, latest, ih, List.any_append]
      by_cases hname : e.1 = name
      · have hlast : [(name, value)].any (·.1 == e.1) = true := by simp [hname]
        rw [hlast, Bool.or_true, if_pos rfl]
        split
        · rfl
        · rw [List.filter_cons_of_neg (by simp [hname])]
      · have hlast : [(name, value)].any (·.1 == e.1) = false := by simp [Ne.symm hname]
        rw [hlast, Bool.or_false]
        split
        · rfl
        · rw [List.filter_cons_of_pos (by simp [hname]), List.cons_append]

/-- Headers are the latest insertions. -/
theorem entries_insertAll (insertions : List (String × List UInt8)) :
    (empty.insertAll insertions).entries = latest insertions := by
  induction insertions using List.reverseRecOn with
  | nil => rfl
  | append_singleton insertions e ih =>
      have hlast : empty.insertAll (insertions ++ [e]) =
          (empty.insertAll insertions).insert e.1 e.2 := by
        rw [insertAll, List.foldl_append]
        rfl
      rw [hlast, latest_append_singleton, ← ih]
      rfl

/-- An insertion that is kept was made. -/
theorem latest_subset (insertions : List (String × List UInt8)) :
    latest insertions ⊆ insertions := by
  induction insertions with
  | nil => exact List.Subset.refl []
  | cons e later ih =>
      rw [latest]
      split
      · exact List.subset_cons_of_subset e ih
      · exact List.cons_subset_cons e ih

/-- No name has two latest insertions. -/
theorem nodup_latest (insertions : List (String × List UInt8)) :
    ((latest insertions).map Prod.fst).Nodup := by
  induction insertions with
  | nil => exact List.nodup_nil
  | cons e later ih =>
      rw [latest]
      split
      · exact ih
      · rename_i hnone
        refine List.nodup_cons.mpr ⟨fun hmem ↦ hnone ?_, ih⟩
        obtain ⟨other, hother, hname⟩ := List.mem_map.mp hmem
        exact List.any_eq_true.mpr ⟨other, latest_subset later hother, beq_iff_eq.mpr hname⟩

/-- A text is found under the name under which it is put, and nothing else changes. -/
theorem get?_set (h : RecordHeaders) (name other value : String) :
    (h.insert name (Text.utf8 value)).get? other =
      if name = other then some value else h.get? other := by
  unfold get?
  rw [find?_insert]
  split
  · exact Text.ofUtf8?_utf8 value
  · rfl

/-- Headers that were put in obey the law. -/
theorem setLaw_insertAll (insertions : List (String × List UInt8)) :
    Carrier.SetLaw (empty.insertAll insertions) id fun _ _ ↦ True where
  get?_set name value _ other := get?_set _ name other value
  nodup_names := by
    show (((empty.insertAll insertions).entries.map Prod.fst).map id).Nodup
    rw [List.map_id, entries_insertAll]
    exact nodup_latest insertions
  mem_names name value h := by
    obtain ⟨bytes, hbytes, -⟩ := Option.bind_eq_some_iff.mp h
    obtain ⟨e, hfound, -⟩ := Option.map_eq_some_iff.mp hbytes
    have hname : e.1 = name := by simpa using List.find?_some hfound
    show name ∈ ((empty.insertAll insertions).entries.map Prod.fst).map id
    rw [List.map_id, ← hname]
    exact List.mem_map_of_mem (List.mem_of_find?_eq_some hfound)

end RecordHeaders

namespace Carrier

/-- Whatever was done to call metadata, header fields, or record headers, they obey the law of their
kind. Call metadata recalls what was inserted and added, header fields take what a field may hold
and show what is visible, and record headers are the latest insertions as they were made. -/
theorem contents_obey_set :
    (∀ operations : List CallMetadata.Operation,
      let m := operations.foldl CallMetadata.after CallMetadata.empty
      SetLaw m foldCase (fun _ _ ↦ True) ∧ m.Recalls operations) ∧
    (∀ operations : List HeaderFields.Operation,
      let f := operations.foldl HeaderFields.after HeaderFields.empty
      SetLaw f foldCase HeaderFields.Shows ∧ f.FieldLaw) ∧
    ∀ insertions : List (String × List UInt8),
      let h := RecordHeaders.empty.insertAll insertions
      SetLaw h id (fun _ _ ↦ True) ∧ h.entries = RecordHeaders.latest insertions :=
  ⟨fun operations ↦ ⟨CallMetadata.setLaw_foldl operations, CallMetadata.recalls_foldl operations⟩,
    fun operations ↦ ⟨HeaderFields.setLaw_foldl operations, HeaderFields.fieldLaw _⟩,
    fun insertions ↦
      ⟨RecordHeaders.setLaw_insertAll insertions, RecordHeaders.entries_insertAll insertions⟩⟩

/-- A text with a letter beyond ASCII is not visible, and yet it changes the headers: it takes the
place of the text that was there, and is read as nothing. -/
theorem hidden_text_takes_place :
    let f := HeaderFields.empty.set "x-note" "plain"
    HeaderFields.isName "x-note" = true ∧
      (Text.utf8 "caf\u00e9").all HeaderFields.isVisible = false ∧
      f.get? "x-note" = some "plain" ∧ (f.set "x-note" "caf\u00e9").get? "x-note" = none := by
  decide

end Carrier

end Storefront
