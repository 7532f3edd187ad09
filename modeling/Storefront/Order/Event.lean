import Storefront.Order.Json
import Storefront.Timestamp

/-!
# Order events

What is announced when an order has been placed. An event is written as an object of its type and
its data; it may be read with the two in either order, or as an array of the two. When the data
comes first it is set aside whole until the type is known. The type is a choice as a member and a
plain text as an item.
-/

namespace Storefront

/-- An order was placed at a time. -/
structure PlacedEvent where
  order : Order
  placedAt : Timestamp
  deriving DecidableEq

namespace PlacedEvent

/-- The name of this type of event. -/
def typeName : String := "OrderPlaced"

/-- Timestamps are texts. -/
def timeDecoder : Decoder Timestamp :=
  Decoder.string.check fun s ↦
    match Timestamp.parse? s with
    | some t => .ok t
    | none => .error .unreadable

/-- The fields of the data. -/
def fields : Fields [Order, Timestamp] :=
  .cons "order" Order.decoder none <|
  .cons "placed_at" timeDecoder none .nil

/-- The data of an event. -/
def dataDecoder : Decoder PlacedEvent :=
  fields.decode.map fun (order, placedAt, _) ↦ ⟨order, placedAt⟩

/-- The type and the data. -/
def toJson (e : PlacedEvent) : Json :=
  .obj [("type", .str typeName),
    ("data", .obj [("order", e.order.toJson), ("placed_at", .str e.placedAt.text)])]

/-- The types of events; there is one. -/
def types : List (String × Unit) :=
  [(typeName, ())]

/-- The type of an event as a member. -/
def typeDecoder : Decoder Unit :=
  Decoder.variant types

/-- The type of an event as an item. -/
def typeItemDecoder : Decoder Unit := fun r ↦ do
  let name ← Decoder.string r
  Decoder.variantNamed types name

/-- The members of an event that have come so far: whether the type has, and the data, decoded if
the type came before it and set aside if not. -/
inductive Draft where
  | none
  | typed
  | aside (data : Reading)
  | both (event : PlacedEvent)

/-- How many brackets may be open at a time in data that is set aside. -/
def asideRoom : Nat := 126

/-- Take a member. -/
def take (draft : Draft) (name : String) (value : Reading) : Except DecodeError Draft :=
  if name = "type" then
    match draft with
    | .none => do
        typeDecoder value
        return .typed
    | .aside data => do
        typeDecoder value
        let event ← dataDecoder.whole data
        return .both event
    | .typed | .both _ => .error (.here (.duplicateField "type"))
  else if name = "data" then
    match draft with
    | .none =>
        match value.readFault? asideRoom with
        | some fault => .error (.fault fault)
        | none => .ok (.aside value)
    | .typed => do
        let event ← dataDecoder value
        return .both event
    | .aside _ | .both _ => .error (.here (.duplicateField "data"))
  else
    match value.skipFault? with
    | some fault => .error (.fault fault)
    | none => .ok draft

/-- Take members in reading order. -/
def takeAll : Draft → List (Option String × Reading) → Except DecodeError Draft
  | draft, [] => .ok draft
  | _, (none, _) :: _ => .error (.fault .malformed)
  | draft, (some name, value) :: rest => do
      let draft ← take draft name value
      takeAll draft rest

/-- The event when all members have come. -/
def complete : Draft → Except DecodeError PlacedEvent
  | .both event => .ok event
  | .typed => .error (.here (.missingField "data"))
  | .none | .aside _ => .error (.here (.missingField "type"))

/-- An event. -/
def decoder : Decoder PlacedEvent
  | .obj members closing => do
      let draft ← takeAll .none members
      let draft ← Decoder.closed draft closing
      complete draft
  | .arr [] closing => Decoder.closed () closing >>= fun _ ↦ .error (.here .wrongLength)
  | .arr [type] closing => do
      typeItemDecoder type
      Decoder.closed () closing
      .error (.here .wrongLength)
  | .arr (type :: data :: rest) closing => do
      typeItemDecoder type
      let event ← dataDecoder data
      if rest.isEmpty then Decoder.closed event closing else .error (.shape .wrongLength)
  | r => Decoder.unexpected r

end PlacedEvent

end Storefront
