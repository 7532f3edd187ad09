import Storefront.Dict
import Storefront.Log
import Storefront.Text.Blank
import Storefront.Text.Percent
import Storefront.Text.Pieces

/-!
# Baggage

Texts under keys that travel with a request. In a header each entry is a member `key=value` with
both parts in percent encoding, members are joined by commas, and they are sorted, so the header
depends on the entries alone. When a header is read, each member is read on its own: a member that
makes no sense is left out and disturbs no other.
-/

namespace Storefront

/-- Texts under keys. -/
abbrev Baggage := Dict String

namespace Baggage

/-- The name of the header that carries baggage. -/
def headerName : String := "baggage"

/-- One entry as a member of the header. -/
def member (entry : String × String) : String :=
  Text.percentEncode entry.1 ++ "=" ++ Text.percentEncode entry.2

/-- All members in the order of their texts. -/
def members (b : Baggage) : List String :=
  (b.entries.map member).mergeSort fun x y ↦ decide (x ≤ y)

/-- The header, unless there is nothing to carry. -/
def header? (b : Baggage) : Option String :=
  if b.isEmpty then none else some (Text.join "," b.members)

/-- A space or a tab. -/
def isGap (c : Char) : Bool :=
  c == ' ' || c == '\t'

/-- A part of a member without the gaps around it, decoded. -/
def part? (cs : List Char) : Option String :=
  Text.percentDecode? (String.ofList (Text.dropEnds isGap cs))

/-- The entry that a member stands for. What follows a semicolon is not looked at; there must be an
equals sign, a key that is not empty, and UTF-8 in both parts. -/
def entry? (cs : List Char) : Option (String × String) := do
  let (key, value) ← Text.cutAt? '=' (Text.before ';' cs)
  let key ← part? key
  let value ← part? value
  if key = "" then none else some (key, value)

/-- The entries of a header; of two under one key the later one stays. -/
def ofHeader (header : String) : Baggage :=
  Dict.ofList ((Text.pieces ',' header.toList).filterMap entry?)

/-- The number of members that every receiver accepts. -/
def maxMembers : Nat := 180

/-- The number of bytes that every receiver accepts. -/
def maxBytes : Nat := 8192

/-- The warning that a header may be cut by its receiver, if it is too long. -/
def warning? (b : Baggage) : Option LogLine :=
  let bytes := (b.header?.getD "").utf8ByteSize
  if maxMembers < b.size ∨ maxBytes < bytes then
    some ⟨.warn, "baggage exceeds W3C limits; third-party receivers may truncate it",
      [("entries", Text.decimal b.size), ("bytes", Text.decimal bytes),
        ("max_entries", Text.decimal maxMembers), ("max_bytes", Text.decimal maxBytes)]⟩
  else none

end Baggage

end Storefront
