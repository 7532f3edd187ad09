import Storefront.Json.Decoder
import Storefront.Proofs.Json.Scan

/-!
# Written records are decoded

A record that is written as an object with the names of its fields in declaration order is decoded
as itself, `Fields.decode_ofJson`, if each field is. A reader of a whole document finds what was
written in it, `Decoder.document_text`.
-/

namespace Storefront

namespace Fields

/-- The names of the fields. -/
def names : {types : List Type} → Fields types → List String
  | _, .nil => []
  | _, .cons name _ _ rest => name :: rest.names

/-- The members are the fields in declaration order, each with a value that is decoded as that of
the record. -/
def Writes : {types : List Type} → Fields types → List (String × Json) → Record types → Prop
  | _, .nil, members, () => members = []
  | _, .cons _ _ _ _, [], _ => False
  | _, .cons name decode _ rest, member :: members, (value, values) =>
      member.1 = name ∧ decode (Reading.ofJson member.2) = .ok value ∧ rest.Writes members values

/-- The slots when all fields have come. -/
def filled : {types : List Type} → Fields types → Record types → Slots types
  | _, .nil, () => ()
  | _, .cons _ _ _ rest, (value, values) => (some value, rest.filled values)

/-- Members of other names pass by the first field. -/
theorem takeAll_cons {α : Type} {types : List Type} {name : String} {decode : Decoder α}
    {absent : Option α} {rest : Fields types} {members : List (String × Json)} {slot : Option α}
    {slots later : Slots types} (hname : name ∉ members.map Prod.fst)
    (h : rest.takeAll (Reading.ofMembers members) slots = .ok later) :
    (Fields.cons name decode absent rest).takeAll (Reading.ofMembers members) (slot, slots) =
      .ok (slot, later) := by
  induction members generalizing slots with
  | nil =>
      cases h
      rfl
  | cons member members ih =>
      obtain ⟨other, value⟩ := member
      obtain ⟨hother, hmembers⟩ : name ≠ other ∧ name ∉ members.map Prod.fst := by
        simpa using hname
      simp only [Reading.ofMembers, takeAll, bind, Except.bind] at h ⊢
      cases htake : rest.take other (Reading.ofJson value) slots with
      | error e =>
          rw [htake] at h
          cases h
      | ok next =>
          rw [htake] at h
          simp only [take, if_neg hother, htake, Except.map]
          exact ih hmembers h

/-- Every field takes its member. -/
theorem takeAll_of_writes {types : List Type} {fields : Fields types}
    {members : List (String × Json)} {record : Record types} (hnames : fields.names.Nodup)
    (h : fields.Writes members record) :
    fields.takeAll (Reading.ofMembers members) fields.start = .ok (fields.filled record) ∧
      members.map Prod.fst = fields.names := by
  induction fields generalizing members with
  | nil =>
      cases h
      exact ⟨rfl, rfl⟩
  | cons name decode absent rest ih =>
      obtain ⟨value, values⟩ := record
      cases members with
      | nil => exact h.elim
      | cons member members =>
          obtain ⟨rfl, hdecode, hwrites⟩ := h
          obtain ⟨hname, hrest⟩ := List.nodup_cons.mp hnames
          obtain ⟨htake, hmembers⟩ := ih hrest hwrites
          have hfirst : (Fields.cons member.1 decode absent rest).take member.1
              (Reading.ofJson member.2) (none, rest.start) = .ok (some value, rest.start) := by
            simp [take, Decoder.under, hdecode, Except.map, Except.mapError]
          refine ⟨?_, by rw [List.map_cons, hmembers, names]⟩
          simp only [Reading.ofMembers, takeAll, start, hfirst, bind, Except.bind]
          rw [← hmembers] at hname
          exact takeAll_cons hname htake

/-- A record whose fields have all come is complete. -/
theorem complete_filled {types : List Type} (fields : Fields types) (record : Record types) :
    fields.complete (fields.filled record) = .ok record := by
  induction fields with
  | nil => rfl
  | cons name decode absent rest ih =>
      obtain ⟨value, values⟩ := record
      simp [complete, filled, ih values, Except.map]

/-- A record that is written as an object is decoded. -/
theorem decode_ofJson {types : List Type} {fields : Fields types}
    {members : List (String × Json)} {record : Record types} (hnames : fields.names.Nodup)
    (h : fields.Writes members record) :
    fields.decode (Reading.ofJson (.obj members)) = .ok record := by
  simp only [decode, Reading.ofJson, (takeAll_of_writes hnames h).1, Decoder.closed, bind,
    Except.bind]
  exact fields.complete_filled record

/-- A record that is written as an object is decoded as what is made of its values. -/
theorem map_decode_ofJson {α : Type} {types : List Type} (fields : Fields types)
    (record : Record types) {members : List (String × Json)} {make : Record types → α}
    (hnames : fields.names.Nodup) (h : fields.Writes members record) :
    fields.decode.map make (Reading.ofJson (.obj members)) = .ok (make record) := by
  rw [Decoder.map, decode_ofJson hnames h]
  rfl

end Fields

namespace Decoder

variable {α : Type} {decode : Decoder α} {write : α → Json}

/-- A value that is decoded and passes its check is decoded as what the check makes of it. -/
theorem check_eq_ok {β : Type} {f : α → Except Problem β} {r : Reading} {a : α} {b : β}
    (h : decode r = .ok a) (hf : f a = .ok b) : decode.check f r = .ok b := by
  simp [check, h, hf, bind, Except.bind, Except.mapError]

/-- Items that are decoded one by one are decoded together. -/
theorem items_ofItems {values : List α}
    (h : ∀ a ∈ values, decode (Reading.ofJson (write a)) = .ok a) (index : Nat) :
    items decode index (Reading.ofItems (values.map write)) = .ok values := by
  induction values generalizing index with
  | nil => rfl
  | cons a values ih =>
      obtain ⟨ha, hvalues⟩ := List.forall_mem_cons.mp h
      simp [Reading.ofItems, items, under, ha, ih hvalues, bind, Except.bind, Except.mapError]

/-- A list whose items are decoded is decoded. -/
theorem list_ofJson {values : List α}
    (h : ∀ a ∈ values, decode (Reading.ofJson (write a)) = .ok a) :
    list decode (Reading.ofJson (.arr (values.map write))) = .ok values := by
  simp [Reading.ofJson, list, items_ofItems h, closed, bind, Except.bind]

/-- Values that are decoded are written differently. -/
theorem injective_of_ofJson (h : ∀ a, decode (Reading.ofJson (write a)) = .ok a) :
    Function.Injective write := by
  intro a b heq
  have hread := h a
  rw [heq, h b] at hread
  exact (Except.ok.inj hread).symm

/-- A document is decoded as the value that was written in it. -/
theorem document_text {j : Json} {a : α} (hfits : j.Fits)
    (h : decode (Reading.ofJson j) = .ok a) : document decode j.text = .ok a := by
  simp [document, entire, Document.scan_text hfits, h, bind, Except.bind]

end Decoder

/-- What is there is written differently, and not like what is absent. -/
theorem Json.optional_injective {α : Type} {write : α → Json} (hwrite : Function.Injective write)
    (hnull : ∀ a, write a ≠ .null) :
    Function.Injective fun o : Option α ↦ (o.map write).getD .null := by
  intro a b h
  cases a <;> cases b
  · rfl
  · exact absurd h.symm (hnull _)
  · exact absurd h (hnull _)
  · exact congrArg some (hwrite h)

/-- Items fit if each of them does. -/
theorem Json.itemsFit_map {α : Type} {write : α → Json} {values : List α}
    (h : ∀ a ∈ values, (write a).Fits) : ItemsFit (values.map write) := by
  induction values with
  | nil => trivial
  | cons a values ih =>
      obtain ⟨ha, hvalues⟩ := List.forall_mem_cons.mp h
      exact ⟨ha, ih hvalues⟩

end Storefront
