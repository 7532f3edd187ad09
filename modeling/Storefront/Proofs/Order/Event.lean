import Storefront.Order.Event
import Storefront.Proofs.Order.RoundTrip
import Storefront.Proofs.Timestamp

/-!
# Written events are read back

The text of an event is decoded as the event, whatever its time.
-/

namespace Storefront.PlacedEvent

/-- The time of an event is decoded. -/
theorem timeDecoder_text (t : Timestamp) :
    timeDecoder (Reading.ofJson (.str t.text)) = .ok t :=
  Decoder.check_eq_ok (Decoder.string_ofJson t.text) (by rw [t.parse?_text])

/-- An event is decoded. -/
theorem decoder_toJson (e : PlacedEvent) : decoder (Reading.ofJson e.toJson) = .ok e := by
  have hdata : dataDecoder (Reading.ofJson
      (.obj [("order", e.order.toJson), ("placed_at", .str e.placedAt.text)])) = .ok e :=
    fields.map_decode_ofJson (e.order, e.placedAt, ()) (by decide)
      ⟨rfl, e.order.decoder_toJson, rfl, timeDecoder_text e.placedAt, rfl⟩
  -- The type comes first, so the data is decoded where it stands.
  have htype : take .none "type" (Reading.ofJson (.str typeName)) = .ok .typed := rfl
  have hboth : take .typed "data" (Reading.ofJson
      (.obj [("order", e.order.toJson), ("placed_at", .str e.placedAt.text)])) = .ok (.both e) := by
    simp [take, hdata, bind, Except.bind, pure, Except.pure]
  have htakes : takeAll .none (Reading.ofMembers [("type", .str typeName),
      ("data", .obj [("order", e.order.toJson), ("placed_at", .str e.placedAt.text)])]) =
      .ok (.both e) := by
    rw [Reading.ofMembers, Reading.ofMembers, Reading.ofMembers]
    simp only [takeAll, htype, hboth, bind, Except.bind]
  show (takeAll .none (Reading.ofMembers _) >>= fun draft ↦ _) = _
  rw [htakes]
  rfl

/-- The numbers of an event fit. -/
theorem toJson_fits (e : PlacedEvent) : e.toJson.Fits :=
  ⟨trivial, ⟨e.order.toJson_fits, trivial, trivial⟩, trivial⟩

/-- The text of an event is read as the event. -/
theorem document_text (e : PlacedEvent) : Decoder.document decoder e.toJson.text = .ok e :=
  Decoder.document_text e.toJson_fits e.decoder_toJson

end Storefront.PlacedEvent
