import Storefront.Json.Reading
import Storefront.Text.Numeral

/-!
# Looking into a reading

The members of an object by name, as values of the simple types. What is missing or has another type
counts as empty: no text, zero, no items.
-/

namespace Storefront.Reading

/-- The member of a name. -/
def member? (r : Reading) (name : String) : Option Reading :=
  match r with
  | .obj members _ => (members.find? fun m ↦ m.1 == some name).map Prod.snd
  | _ => none

/-- The member of a name, `null` if there is none. -/
def member (r : Reading) (name : String) : Reading :=
  (r.member? name).getD .null

/-- A text. -/
def asText? : Reading → Option String
  | .str s => s
  | _ => none

/-- An integer. -/
def asInt? : Reading → Option Int
  | .num (.int n) => some n
  | _ => none

/-- The value is `null`. -/
def isNull : Reading → Bool
  | .null => true
  | _ => false

/-- The value is an object. -/
def isObject : Reading → Bool
  | .obj .. => true
  | _ => false

/-- The items of an array. -/
def asItems : Reading → List Reading
  | .arr items _ => items
  | _ => []

/-- The text under a name, if it is one. -/
def text? (r : Reading) (name : String) : Option String :=
  (r.member name).asText?

/-- The text under a name. -/
def text (r : Reading) (name : String) : String :=
  (r.text? name).getD ""

/-- The integer under a name. -/
def int (r : Reading) (name : String) : Int :=
  (r.member name).asInt?.getD 0

/-- The natural number under a name, if it is a number. -/
def nat? (r : Reading) (name : String) : Option Nat :=
  (r.member name).asInt?.map Int.toNat

/-- The natural number under a name. -/
def nat (r : Reading) (name : String) : Nat :=
  (r.nat? name).getD 0

/-- What is under a name is `true`. -/
def flag (r : Reading) (name : String) : Bool :=
  match r.member name with
  | .bool b => b
  | _ => false

/-- The items of the array under a name. -/
def items (r : Reading) (name : String) : List Reading :=
  (r.member name).asItems

/-- The pairs of texts in the array under a name. -/
def pairs (r : Reading) (name : String) : List (String × String) :=
  (r.items name).filterMap fun item ↦
    match item.asItems with
    | [k, v] => do pure (← k.asText?, ← v.asText?)
    | _ => none

/-- The number that the text under a name writes in hexadecimal. -/
def hex (r : Reading) (name : String) : Nat :=
  (Text.hexadecimal? (r.text name).toList).getD 0

mutual

/-- The value that was read, as far as it is one. The least integer that does not fit in 64 bits
stands for every number that is not an integer or does not fit. -/
def toJson : Reading → Json
  | .bool b => .bool b
  | .num (.int n) => .int n
  | .num _ => .int 18446744073709551616
  | .str (some s) => .str s
  | .arr items _ => .arr (itemsToJson items)
  | .obj members _ => .obj (membersToJson members)
  | _ => .null

/-- The values of items. -/
def itemsToJson : List Reading → List Json
  | [] => []
  | r :: rest => r.toJson :: itemsToJson rest

/-- The values of members. -/
def membersToJson : List (Option String × Reading) → List (String × Json)
  | [] => []
  | (name, r) :: rest => (name.getD "", r.toJson) :: membersToJson rest

end

end Storefront.Reading
