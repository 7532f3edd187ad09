import Storefront.Json.Reading
import Storefront.Money

/-!
# Decoders

Reading typed values out of a JSON reading. A decoder reports the first problem in reading order:
a fault of the text, or a `Problem` of its content together with the path to the value that has it.
Records are described by their `Fields` in declaration order and may be written as objects, where
unknown members are skipped, or as arrays of their fields.
-/

namespace Storefront

/-- Where in a value a problem lies: the name of a field or the position of an item. -/
inductive PathStep where
  | field (name : String)
  | item (index : Nat)
  deriving DecidableEq

/-- What is wrong with the content of a value. -/
inductive Problem where
  | missingField (name : String)
  | duplicateField (name : String)
  | unknownVariant (name : String) (expected : List String)
  | invalidType
  | invalidValue
  | wrongLength
  /-- The text is not the written form of an identifier or a time. -/
  | unreadable
  | money (error : MoneyError)
  deriving DecidableEq

/-- Why decoding failed. A value of the wrong shape is malformed where it is read from the text, and
has a problem where it had been read whole before. -/
inductive DecodeError where
  | fault (fault : Fault)
  | shape (problem : Problem)
  | content (path : List PathStep) (problem : Problem)
  deriving DecidableEq

/-- A reading of one type of value. -/
abbrev Decoder (α : Type) := Reading → Except DecodeError α

namespace DecodeError

/-- The error, seen from one step further out. -/
def under (step : PathStep) : DecodeError → DecodeError
  | .content path problem => .content (step :: path) problem
  | e => e

/-- A problem of the value itself. -/
def here (problem : Problem) : DecodeError :=
  .content [] problem

/-- The error in a value that had been read whole before. -/
def ofWhole : DecodeError → DecodeError
  | .shape problem => .here problem
  | e => e

end DecodeError

namespace Decoder

/-- A value of a type that was not asked for. Brackets are not looked into. -/
def unexpected {α : Type} : Decoder α
  | .broken b => .error (.fault b.read)
  | .str none => .error (.fault .malformed)
  | .num .beyond => .error (.fault .malformed)
  | _ => .error (.here .invalidType)

/-- Decode, seen from one step further out. -/
def under {α : Type} (step : PathStep) (decode : Decoder α) : Decoder α := fun r ↦
  (decode r).mapError (DecodeError.under step)

/-- Decode and change the value. -/
def map {α β : Type} (f : α → β) (decode : Decoder α) : Decoder β := fun r ↦
  (decode r).map f

/-- Decode and check the value; a failed check is a problem of the value as a whole. -/
def check {α β : Type} (f : α → Except Problem β) (decode : Decoder α) : Decoder β := fun r ↦ do
  let a ← decode r
  (f a).mapError DecodeError.here

/-- A text. -/
def string : Decoder String
  | .str (some s) => .ok s
  | r => unexpected r

/-- An integer between two bounds. -/
def integer (low high : Int) : Decoder Int
  | .num (.int n) => if low ≤ n ∧ n ≤ high then .ok n else .error (.here .invalidValue)
  | r => unexpected r

/-- A natural number below a bound. -/
def natural (bound : Nat) : Decoder Nat :=
  (integer 0 (bound - 1)).map Int.toNat

/-- Nothing, or a value. -/
def optional {α : Type} (decode : Decoder α) : Decoder (Option α)
  | .null => .ok none
  | r => (decode r).map some

/-- The items of an array from a position on. -/
def items {α : Type} (decode : Decoder α) : Nat → List Reading → Except DecodeError (List α)
  | _, [] => .ok []
  | i, r :: rest => do
      let a ← under (.item i) decode r
      let as ← items decode (i + 1) rest
      .ok (a :: as)

/-- Succeed when a bracket is closed. -/
def closed {α : Type} (value : α) : Option Break → Except DecodeError α
  | none => .ok value
  | some b => .error (.fault b.read)

/-- An array. -/
def list {α : Type} (decode : Decoder α) : Decoder (List α)
  | .arr rs closing => do
      let as ← items decode 0 rs
      closed as closing
  | r => unexpected r

/-- Find the value that a name stands for. -/
def lookup? {α : Type} (name : String) : List (String × α) → Option α
  | [] => none
  | (n, a) :: rest => if n = name then some a else lookup? name rest

/-- The name of a variant among the known ones. -/
def variantNamed {α : Type} (variants : List (String × α)) (name : String) :
    Except DecodeError α :=
  match lookup? name variants with
  | some a => .ok a
  | none => .error (.here (.unknownVariant name (variants.map Prod.fst)))

/-- What stands in the place of a choice: the fault of a break, or a value of the wrong type. -/
def misplaced {α : Type} : Option Fault → Except DecodeError α
  | some fault => .error (.fault fault)
  | none => .error (.here .invalidType)

/-- Succeed when an object that names a choice is closed. -/
def closedChoice {α : Type} (value : α) : Option Break → Except DecodeError α
  | none => .ok value
  | some b => misplaced b.choice

/-- A choice without content: the name of the variant, or an object whose one member has that name
and the value `null`. A value that begins otherwise has the wrong shape, whatever it is. -/
def variant {α : Type} (variants : List (String × α)) : Decoder α
  | .str (some name) => variantNamed variants name
  | .broken b => misplaced b.choice
  | .obj ((some name, value) :: rest) closing => do
      let a ← variantNamed variants name
      match value with
      | .null => if rest.isEmpty then closedChoice a closing else .error (.shape .invalidValue)
      | r => unexpected r
  | .obj [] (some b) => misplaced b.choice
  | .obj [] none => .error (.shape .invalidValue)
  | .str none | .obj ((none, _) :: _) _ => .error (.fault .malformed)
  | _ => .error (.shape .invalidType)

/-- Decode a value that has been read whole before. -/
def whole {α : Type} (decode : Decoder α) : Decoder α := fun r ↦
  (decode r).mapError DecodeError.ofWhole

end Decoder

/-- The values of a record, one of each type. -/
@[reducible] def Record : List Type → Type
  | [] => Unit
  | α :: types => α × Record types

/-- What is kept while a record is read: for each field its value once it has come. -/
@[reducible] def Slots : List Type → Type
  | [] => Unit
  | α :: types => Option α × Slots types

/-- The fields of a record in declaration order, each with its name, its decoder, and the value it
has when it is absent, if it may be. -/
inductive Fields : List Type → Type 1 where
  | nil : Fields []
  | cons {α : Type} {types : List Type} (name : String) (decode : Decoder α) (absent : Option α)
      (rest : Fields types) : Fields (α :: types)

namespace Fields

/-- No field has come. -/
def start : {types : List Type} → Fields types → Slots types
  | _, .nil => ()
  | _, .cons _ _ _ rest => (none, rest.start)

/-- Take a member into its field. A field that has come before is a duplicate, before its value is
looked at; a member that is no field is skipped. -/
def take (name : String) (value : Reading) :
    {types : List Type} → Fields types → Slots types → Except DecodeError (Slots types)
  | _, .nil, () =>
      match value.skipFault? with
      | some fault => .error (.fault fault)
      | none => .ok ()
  | _, .cons n decode _ rest, (slot, slots) =>
      if n = name then
        match slot with
        | some _ => .error (.here (.duplicateField n))
        | none => (decode.under (.field n) value).map fun a ↦ (some a, slots)
      else (rest.take name value slots).map fun slots ↦ (slot, slots)

/-- The record when all members have come: the first field that is missing is reported. -/
def complete : {types : List Type} → Fields types → Slots types →
    Except DecodeError (Record types)
  | _, .nil, () => .ok ()
  | _, .cons n _ absent rest, (slot, slots) =>
      match slot.or absent with
      | some a => (rest.complete slots).map fun b ↦ (a, b)
      | none => .error (.here (.missingField n))

/-- Take members in reading order. -/
def takeAll {types : List Type} (fields : Fields types) :
    List (Option String × Reading) → Slots types → Except DecodeError (Slots types)
  | [], slots => .ok slots
  | (none, _) :: _, _ => .error (.fault .malformed)
  | (some name, value) :: rest, slots => do
      let slots ← fields.take name value slots
      fields.takeAll rest slots

/-- The record from the items of an array, by position. Fields at the end that may be absent may be
left out. -/
def fromItems (index : Nat) : {types : List Type} → Fields types → List Reading →
    Option Break → Except DecodeError (Record types)
  | _, .nil, [], closing => Decoder.closed () closing
  | _, .nil, _ :: _, _ => .error (.shape .wrongLength)
  | _, .cons _ decode _ rest, item :: items, closing => do
      let a ← decode.under (.item index) item
      let b ← rest.fromItems (index + 1) items closing
      .ok (a, b)
  | _, .cons _ _ _ _, [], some b => .error (.fault b.read)
  | _, .cons _ _ absent rest, [], none =>
      match absent with
      | some a => (rest.fromItems (index + 1) [] none).map fun b ↦ (a, b)
      | none => .error (.here .wrongLength)

/-- A record, written as an object or as an array. -/
def decode {types : List Type} (fields : Fields types) : Decoder (Record types)
  | .arr items closing => fields.fromItems 0 items closing
  | .obj members closing => do
      let slots ← fields.takeAll members fields.start
      let slots ← Decoder.closed slots closing
      fields.complete slots
  | r => Decoder.unexpected r

end Fields

namespace Decoder

/-- Decode a whole document: the value, and then nothing but blanks. -/
def entire {α : Type} (decode : Decoder α) (doc : Document) : Except DecodeError α := do
  let a ← decode doc.value
  if doc.trailing then .error (.fault .malformed) else .ok a

/-- Decode a text. -/
def document {α : Type} (decode : Decoder α) (text : String) : Except DecodeError α :=
  decode.entire (.scan text)

/-- Decode bytes. -/
def bytes {α : Type} (decode : Decoder α) (bytes : List UInt8) : Except DecodeError α :=
  decode.entire (.scanBytes bytes)

end Decoder

/-- The wording of a problem. Values of the wrong type or out of range are not described further. -/
def Problem.message : Problem → String
  | .missingField name => "missing field `" ++ name ++ "`"
  | .duplicateField name => "duplicate field `" ++ name ++ "`"
  | .unknownVariant name expected =>
      let names := expected.map fun e ↦ "`" ++ e ++ "`"
      "unknown variant `" ++ name ++ "`, expected " ++
        (if expected.length = 1 then "" else "one of ") ++ ", ".intercalate names
  | .invalidType => "invalid type"
  | .invalidValue => "invalid value"
  | .wrongLength => "invalid length"
  | .unreadable => "unreadable text"
  | .money error => error.message

/-- The path to a value: names after points, positions in brackets. -/
def PathStep.render : List PathStep → String
  | [] => ""
  | .field name :: rest => name ++ separated rest
  | .item i :: rest => "[" ++ Text.decimal i ++ "]" ++ separated rest
where
  /-- The steps after the first. -/
  separated : List PathStep → String
    | [] => ""
    | .field name :: rest => "." ++ name ++ separated rest
    | .item i :: rest => "[" ++ Text.decimal i ++ "]" ++ separated rest

end Storefront
