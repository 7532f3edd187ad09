import Storefront.Text.Blank
import Storefront.Text.Pieces

/-!
# Trace state

What other tracing systems attach to a trace: a list of keys and values that is passed on as it
is. Keys and values are short and use characters that cannot be mistaken for the separators of the
header, and one member that breaks these rules makes the whole header unreadable.
-/

namespace Storefront

namespace TraceState

/-- A small letter of ASCII or a digit. -/
def isWordChar (c : Char) : Bool :=
  c.isLower || c.isDigit

/-- A character that a key may contain. -/
def isKeyChar (c : Char) : Bool :=
  isWordChar c || c == '_' || c == '-' || c == '*' || c == '/' || c == '@'

/-- There are no characters, or the first is a small letter or a digit. -/
def startsWord (cs : List Char) : Bool :=
  cs.head?.all isWordChar

/-- What follows an at sign names a system: at most 13 characters, the first a small letter or a
digit, and no other at sign. -/
def isSystemName (cs : List Char) : Bool :=
  decide (cs.length ≤ 13) && startsWord cs && !cs.contains '@'

/-- A key: at most 256 key characters, the first a small letter or a digit, with at most one at
sign and the name of a system after it. -/
def isKey (key : String) : Bool :=
  let cs := key.toList
  decide (cs.length ≤ 256) && cs.all isKeyChar && startsWord cs &&
    ((Text.cutAt? '@' cs).all fun parts ↦ isSystemName parts.2)

/-- A value: at most 256 bytes without comma and equals sign. -/
def isValue (value : String) : Bool :=
  decide (value.utf8ByteSize ≤ 256) && !value.toList.contains ',' && !value.toList.contains '='

/-- A member that may be passed on. -/
def IsMember (m : String × String) : Prop :=
  isKey m.1 = true ∧ isValue m.2 = true

/-- `IsMember` is decidable by looking at the characters. -/
instance (m : String × String) : Decidable (IsMember m) :=
  inferInstanceAs (Decidable (_ ∧ _))

end TraceState

/-- Members that may be passed on, in order. -/
structure TraceState where
  members : List (String × String)
  valid : ∀ m ∈ members, TraceState.IsMember m
  deriving DecidableEq

namespace TraceState

/-- No members. -/
def empty : TraceState :=
  ⟨[], fun _ h ↦ nomatch h⟩

/-- The state of a list of members, if all of them may be passed on. -/
def ofMembers? (members : List (String × String)) : Option TraceState :=
  if h : ∀ m ∈ members, IsMember m then some ⟨members, h⟩ else none

/-- Members as `key=value`, joined by commas. -/
def header (s : TraceState) : String :=
  Text.join "," (s.members.map fun m ↦ m.1 ++ "=" ++ m.2)

/-- One member of a header: a key before the first equals sign, and after it a value without the
equals signs at its start. -/
def member? (cs : List Char) : Option (String × String) := do
  let (key, value) ← Text.cutAt? '=' cs
  return (String.ofList key, String.ofList (value.dropWhile (· == '=')))

/-- The state that a header describes, if every member can be read. -/
def ofHeader? (header : String) : Option TraceState := do
  let members ← (Text.terminated ',' header.toList).mapM member?
  ofMembers? members

end TraceState

end Storefront
