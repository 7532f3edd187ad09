import Storefront.Text.LowerCase
import Storefront.Trace.Propagation

/-!
# Carriers

The four kinds of carriers. Call metadata has any number of texts under a name, whatever the case
of the name. Header fields do too, but names and values are restricted and values are bytes.
Record headers are a list of byte values under names that differ by case. A plain map has one text
under a name, whatever its case. For each kind a `set` is seen by the next `get?` under the same
name and by no other.
-/

namespace Storefront

/-- A name with its letters A to Z made small. -/
def foldCase (name : String) : String :=
  String.ofList (name.toList.map Char.toLower)

/-- Metadata of a call: texts under each name, in the order in which they were added. -/
structure CallMetadata where
  entries : Dict (List String)

namespace CallMetadata

/-- No metadata. -/
def empty : CallMetadata :=
  ⟨.empty⟩

/-- All texts under a name. -/
def getAll (m : CallMetadata) (name : String) : List String :=
  (m.entries.get? (foldCase name)).getD []

/-- The first text under a name. -/
def get? (m : CallMetadata) (name : String) : Option String :=
  (m.getAll name).head?

/-- Put a text under a name in place of all others. -/
def insert (m : CallMetadata) (name value : String) : CallMetadata :=
  ⟨m.entries.insert (foldCase name) [value]⟩

/-- Put a text under a name after the others. -/
def append (m : CallMetadata) (name value : String) : CallMetadata :=
  ⟨m.entries.insert (foldCase name) (m.getAll name ++ [value])⟩

/-- The number of names. -/
def size (m : CallMetadata) : Nat :=
  m.entries.size

/-- Call metadata carries texts under names of any case. -/
instance : Carrier CallMetadata where
  empty := empty
  get? := get?
  set := insert
  names m := m.entries.keys

end CallMetadata

/-- Header fields: byte values under each name, in the order in which they were added. -/
structure HeaderFields where
  entries : Dict (List (List UInt8))

namespace HeaderFields

/-- No fields. -/
def empty : HeaderFields :=
  ⟨.empty⟩

/-- A character that a field name may contain. -/
def isNameChar (c : Char) : Bool :=
  c.isAlphanum || "!#$%&'*+-.^_\x60|~".toList.contains c

/-- The number of characters that a field name may have. -/
def maxNameLength : Nat := 65535

/-- A field name: some name characters, and not too many. -/
def isName (name : String) : Bool :=
  name ≠ "" && decide (name.length ≤ maxNameLength) && name.toList.all isNameChar

/-- A byte that is shown as a character of ASCII, or a tab. -/
def isVisible (b : UInt8) : Bool :=
  (32 ≤ b && b < 127) || b == 9

/-- A byte that a field value may contain. -/
def isValueByte (b : UInt8) : Bool :=
  (32 ≤ b && b != 127) || b == 9

/-- All values under a name. -/
def getAll (f : HeaderFields) (name : String) : List (List UInt8) :=
  (f.entries.get? (foldCase name)).getD []

/-- The first value under a name, if all its bytes are visible. -/
def get? (f : HeaderFields) (name : String) : Option String := do
  let value ← (f.getAll name).head?
  if value.all isVisible then Text.ofUtf8? value else none

/-- Put a text under a name in place of all other values. What is no field name, or has a byte that
no field value may contain, is not put anywhere. -/
def set (f : HeaderFields) (name value : String) : HeaderFields :=
  if isName name && (Text.utf8 value).all isValueByte then
    ⟨f.entries.insert (foldCase name) [Text.utf8 value]⟩
  else f

/-- Put a value under a name after the others, if both are allowed in a field. -/
def append (f : HeaderFields) (name : String) (value : List UInt8) : HeaderFields :=
  if isName name && value.all isValueByte then
    ⟨f.entries.insert (foldCase name) (f.getAll name ++ [value])⟩
  else f

/-- Fields from names and values, added from left to right. -/
def ofList (fields : List (String × List UInt8)) : HeaderFields :=
  fields.foldl (fun f e ↦ f.append e.1 e.2) empty

/-- Every name with every value under it. -/
def toList (f : HeaderFields) : List (String × List UInt8) :=
  f.entries.entries.flatMap fun e ↦ e.2.map fun value ↦ (e.1, value)

/-- Header fields carry visible texts under field names of any case. -/
instance : Carrier HeaderFields where
  empty := empty
  get? := get?
  set := set
  names f := f.entries.keys

end HeaderFields

/-- Headers of a record: byte values under names, in order, no name twice. -/
structure RecordHeaders where
  entries : List (String × List UInt8)

namespace RecordHeaders

/-- No headers. -/
def empty : RecordHeaders :=
  ⟨[]⟩

/-- The bytes under a name. -/
def find? (h : RecordHeaders) (name : String) : Option (List UInt8) :=
  (h.entries.find? fun e ↦ e.1 == name).map Prod.snd

/-- Put bytes under a name at the end, in place of what was there. -/
def insert (h : RecordHeaders) (name : String) (value : List UInt8) : RecordHeaders :=
  ⟨(h.entries.filter fun e ↦ e.1 != name) ++ [(name, value)]⟩

/-- The text under a name, if its bytes are UTF-8. -/
def get? (h : RecordHeaders) (name : String) : Option String :=
  h.find? name >>= Text.ofUtf8?

/-- The number of headers. -/
def size (h : RecordHeaders) : Nat :=
  h.entries.length

/-- Record headers carry texts under names, each name as it is written. -/
instance : Carrier RecordHeaders where
  empty := empty
  get? := get?
  set h name value := h.insert name (Text.utf8 value)
  names h := h.entries.map Prod.fst

end RecordHeaders

/-- One text under each name, whatever the case of the letters of the name, in any script. -/
structure NameMap where
  entries : Dict String

namespace NameMap

/-- No texts. -/
def empty : NameMap :=
  ⟨.empty⟩

/-- The text under a name. -/
def get? (m : NameMap) (name : String) : Option String :=
  m.entries.get? (Text.lowerCase name)

/-- Put a text under a name in place of what is there. -/
def set (m : NameMap) (name value : String) : NameMap :=
  ⟨m.entries.insert (Text.lowerCase name) value⟩

/-- A map carries texts under names of any case. -/
instance : Carrier NameMap where
  empty := empty
  get? := get?
  set := set
  names m := m.entries.keys

end NameMap

end Storefront
