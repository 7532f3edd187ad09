import Storefront.Progress
import Storefront.Proofs.Order.Event

/-!
# Written values of every type are read back

A `Codec` is a writer and a reader of one type with the proof that what is written is read as
itself, and there is one for each `WireType`. It follows that reading a text and writing what was
read gives a canonical form of the text: it holds the same value, it is its own canonical form, and
two texts have the same one exactly if they hold the same value, `WireType.round_trip`. A text that
is refused has no canonical form, and its fault is kept.
-/

namespace Storefront

/-- A writer and a reader of a type. The numbers that are written fit in 64 bits, and what is
written is read as itself. -/
structure Codec (α : Type) where
  toJson : α → Json
  decoder : Decoder α
  toJson_fits : ∀ a, (toJson a).Fits
  decoder_toJson : ∀ a, decoder (Reading.ofJson (toJson a)) = .ok a

namespace Codec

variable {α : Type} (c : Codec α)

/-- The text of a value. -/
def encode (a : α) : String :=
  (c.toJson a).text

/-- The value of a text. -/
def decode (text : String) : Except DecodeError α :=
  Decoder.document c.decoder text

/-- The text of the value of a text. -/
def canonical (text : String) : Except DecodeError String :=
  (c.decode text).map c.encode

/-- The text of a value is read as the value. -/
theorem decode_encode (a : α) : c.decode (c.encode a) = .ok a :=
  Decoder.document_text (c.toJson_fits a) (c.decoder_toJson a)

/-- The bytes of the text of a value are read as the value. -/
theorem bytes_encode (a : α) : c.decoder.bytes (Text.utf8 (c.encode a)) = .ok a := by
  rw [Decoder.bytes, Document.scanBytes_utf8]
  exact c.decode_encode a

/-- The text of a value is canonical. -/
theorem canonical_encode (a : α) : c.canonical (c.encode a) = .ok (c.encode a) := by
  rw [canonical, decode_encode]
  rfl

/-- The canonical form of a text holds what the text holds. -/
theorem canonical_bind_decode (text : String) : c.canonical text >>= c.decode = c.decode text := by
  unfold canonical
  cases c.decode text with
  | error e => rfl
  | ok a => exact c.decode_encode a

/-- The canonical form of a text is its own canonical form. -/
theorem canonical_bind_canonical (text : String) :
    c.canonical text >>= c.canonical = c.canonical text := by
  unfold canonical
  cases c.decode text with
  | error e => rfl
  | ok a => exact c.canonical_encode a

/-- Two texts have the same canonical form exactly if they hold the same value. -/
theorem canonical_eq_iff (text other : String) :
    c.canonical text = c.canonical other ↔ c.decode text = c.decode other := by
  constructor
  · intro h
    rw [← c.canonical_bind_decode text, h, c.canonical_bind_decode]
  · intro h
    rw [canonical, h, canonical]

end Codec

/-- The name of a known variant is read as the variant. -/
theorem Decoder.variant_ofJson {α : Type} {variants : List (String × α)} {name : String} {a : α}
    (h : lookup? name variants = some a) :
    variant variants (Reading.ofJson (.str name)) = .ok a := by
  show variantNamed variants name = .ok a
  rw [variantNamed, h]

/-- A step is decoded. -/
theorem Step.decoder_toJson (s : Step) : decoder (Reading.ofJson s.toJson) = .ok s :=
  Decoder.variant_ofJson (by cases s <;> rfl)

/-- A stage is decoded. -/
theorem Stage.decoder_toJson (s : Stage) : decoder (Reading.ofJson s.toJson) = .ok s :=
  Decoder.variant_ofJson (by cases s <;> rfl)

/-- A quote is decoded. -/
theorem ShippingQuote.decoder_toJson (q : ShippingQuote) :
    decoder (Reading.ofJson q.toJson) = .ok q :=
  fields.map_decode_ofJson (q.cost, ()) (by decide) ⟨rfl, q.cost.decoder_toJson, rfl⟩

/-- A receipt is decoded. -/
theorem ChargeReceipt.decoder_toJson (c : ChargeReceipt) :
    decoder (Reading.ofJson c.toJson) = .ok c :=
  fields.map_decode_ofJson (c.transactionId, ()) (by decide) ⟨rfl, rfl, rfl⟩

/-- A confirmation is decoded. -/
theorem Confirmation.decoder_toJson (c : Confirmation) :
    decoder (Reading.ofJson c.toJson) = .ok c :=
  fields.map_decode_ofJson (c.email, c.order, ()) (by decide)
    ⟨rfl, rfl, rfl, c.order.decoder_toJson, rfl⟩

/-- The types whose values are written and read. -/
inductive WireType where
  | currencyCode
  | money
  | orderId
  | userId
  | productId
  | address
  | card
  | orderRequest
  | cartLine
  | pricedLine
  | shippingQuote
  | chargeReceipt
  | order
  | confirmation
  | step
  | stage
  | placedEvent
  deriving DecidableEq

namespace WireType

/-- The values of a type. -/
@[reducible] def Value : WireType → Type
  | currencyCode => CurrencyCode
  | money => Money
  | orderId => OrderId
  | userId => UserId
  | productId => ProductId
  | address => Address
  | card => Card
  | orderRequest => OrderRequest
  | cartLine => CartLine
  | pricedLine => PricedLine
  | shippingQuote => ShippingQuote
  | chargeReceipt => ChargeReceipt
  | order => Order
  | confirmation => Confirmation
  | step => Step
  | stage => Stage
  | placedEvent => PlacedEvent

/-- The writer and the reader of each type. -/
def codec : (w : WireType) → Codec w.Value
  | currencyCode => ⟨CurrencyCode.toJson, CurrencyCode.decoder, fun _ ↦ trivial,
      CurrencyCode.decoder_toJson⟩
  | money => ⟨Money.toJson, Money.decoder, Money.toJson_fits, Money.decoder_toJson⟩
  | orderId => ⟨OrderId.toJson, OrderId.decoder, fun _ ↦ trivial, OrderId.decoder_toJson⟩
  | userId => ⟨UserId.toJson, UserId.decoder, fun _ ↦ trivial, fun _ ↦ rfl⟩
  | productId => ⟨ProductId.toJson, ProductId.decoder, fun _ ↦ trivial, fun _ ↦ rfl⟩
  | address => ⟨Address.toJson, Address.decoder,
      fun _ ↦ ⟨trivial, trivial, trivial, trivial, trivial, trivial⟩, Address.decoder_toJson⟩
  | card => ⟨Card.toJson, Card.decoder, Card.toJson_fits, Card.decoder_toJson⟩
  | orderRequest => ⟨OrderRequest.toJson, OrderRequest.decoder, OrderRequest.toJson_fits,
      OrderRequest.decoder_toJson⟩
  | cartLine => ⟨CartLine.toJson, CartLine.decoder, CartLine.toJson_fits, CartLine.decoder_toJson⟩
  | pricedLine => ⟨PricedLine.toJson, PricedLine.decoder, PricedLine.toJson_fits,
      PricedLine.decoder_toJson⟩
  | shippingQuote => ⟨ShippingQuote.toJson, ShippingQuote.decoder,
      fun q ↦ ⟨q.cost.toJson_fits, trivial⟩, ShippingQuote.decoder_toJson⟩
  | chargeReceipt => ⟨ChargeReceipt.toJson, ChargeReceipt.decoder, fun _ ↦ ⟨trivial, trivial⟩,
      ChargeReceipt.decoder_toJson⟩
  | order => ⟨Order.toJson, Order.decoder, Order.toJson_fits, Order.decoder_toJson⟩
  | confirmation => ⟨Confirmation.toJson, Confirmation.decoder,
      fun c ↦ ⟨trivial, c.order.toJson_fits, trivial⟩, Confirmation.decoder_toJson⟩
  | step => ⟨Step.toJson, Step.decoder, fun _ ↦ trivial, Step.decoder_toJson⟩
  | stage => ⟨Stage.toJson, Stage.decoder, fun _ ↦ trivial, Stage.decoder_toJson⟩
  | placedEvent => ⟨PlacedEvent.toJson, PlacedEvent.decoder, PlacedEvent.toJson_fits,
      PlacedEvent.decoder_toJson⟩

/-- Every value of every type is read back from its text and from the bytes of its text, and every
text has the canonical form of what it holds. -/
theorem round_trip (w : WireType) :
    (∀ v : w.Value, w.codec.decode (w.codec.encode v) = .ok v ∧
      w.codec.decoder.bytes (Text.utf8 (w.codec.encode v)) = .ok v ∧
      w.codec.canonical (w.codec.encode v) = .ok (w.codec.encode v)) ∧
    ∀ text : String,
      w.codec.canonical text >>= w.codec.decode = w.codec.decode text ∧
      w.codec.canonical text >>= w.codec.canonical = w.codec.canonical text ∧
      ∀ other, w.codec.canonical text = w.codec.canonical other ↔
        w.codec.decode text = w.codec.decode other :=
  ⟨fun v ↦ ⟨w.codec.decode_encode v, w.codec.bytes_encode v, w.codec.canonical_encode v⟩,
    fun text ↦ ⟨w.codec.canonical_bind_decode text, w.codec.canonical_bind_canonical text,
      w.codec.canonical_eq_iff text⟩⟩

end WireType

end Storefront
