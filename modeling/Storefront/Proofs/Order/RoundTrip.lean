import Mathlib
import Storefront.Order.Request
import Storefront.Proofs.Json.Decode

/-!
# Written orders are read back

Currency codes, order numbers, amounts, addresses, lines, orders, and requests for orders are
decoded as what was written. For each type there is one lemma about its decoder and one that its
numbers fit in 64 bits; `Order.document_text` and `OrderRequest.bytes_text` are what a reader of an
order and of a request gets.
-/

namespace Storefront

/-- A text is decoded. -/
theorem Decoder.string_ofJson (s : String) : Decoder.string (Reading.ofJson (.str s)) = .ok s :=
  rfl

/-- An integer within the bounds is decoded. -/
theorem Decoder.integer_ofJson {low high n : Int} (hlow : low ≤ n) (hhigh : n ≤ high) :
    Decoder.integer low high (Reading.ofJson (.int n)) = .ok n :=
  if_pos ⟨hlow, hhigh⟩

/-- A 32-bit natural number is decoded. -/
theorem Decoder.uint32_ofJson (n : UInt32) :
    Decoder.uint32 (Reading.ofJson (.int n.toNat)) = .ok n := by
  have hbound : (n.toNat : Int) ≤ ((Nat.pow 2 32 : Nat) : Int) - 1 := by
    have hlt : n.toNat < Nat.pow 2 32 := n.toNat_lt
    omega
  have hinteger := Decoder.integer_ofJson (Int.natCast_nonneg n.toNat) hbound
  simp only [Decoder.uint32, Decoder.natural, Decoder.map, hinteger, Except.map, Int.toNat_natCast,
    UInt32.ofNat_toNat]

namespace CurrencyCode

/-- The letters of a code are capitals already. -/
theorem capitals_text (code : CurrencyCode) : capitals code.text = code.text := by
  have hupper : ∀ c ∈ code.text.toList, c.toUpper = c := by
    intro c hc
    have hcapital := code.isCode.2 c hc
    simp only [Char.isUpper, decide_eq_true_eq] at hcapital
    have hsmall : ¬(97 ≤ c.val ∧ c.val ≤ 122) := by
      rintro ⟨hlow, -⟩
      exact absurd (UInt32.le_trans hlow hcapital.2) (by decide)
    simp only [Char.toUpper]
    split
    · rename_i h
      exact absurd h hsmall
    · rfl
  rw [capitals, List.map_congr_left hupper, List.map_id', String.ofList_toList]

/-- A code is read as itself. -/
theorem parse?_text (code : CurrencyCode) : parse? code.text = some code := by
  unfold parse?
  simp only [capitals_text]
  exact dif_pos code.isCode

/-- A code is decoded. -/
theorem decoder_toJson (code : CurrencyCode) : decoder (Reading.ofJson code.toJson) = .ok code := by
  refine Decoder.check_eq_ok (Decoder.string_ofJson code.text) ?_
  rw [CurrencyCode.parse, parse?_text]
  rfl

end CurrencyCode

namespace Money

/-- The units of an amount fit in a 64-bit word. -/
theorem units_bounds (m : Money) : -2 ^ 63 ≤ m.units ∧ m.units < 2 ^ 63 :=
  ⟨m.unitWord.le_toInt, m.unitWord.toInt_lt⟩

/-- The nanos of an amount fit in a 32-bit word. -/
theorem nanos_bounds (m : Money) : -2 ^ 31 ≤ m.nanos ∧ m.nanos < 2 ^ 31 :=
  ⟨m.nanoWord.le_toInt, m.nanoWord.toInt_lt⟩

/-- An amount is made of its parts. -/
theorem ofParts_units_nanos (m : Money) : ofParts m.currency m.units m.nanos = .ok m := by
  unfold ofParts ofWords units nanos
  simp only [Int64.ofInt_toInt, Int32.ofInt_toInt]
  exact dif_pos m.wellFormed

/-- An amount is decoded. -/
theorem decoder_toJson (m : Money) : decoder (Reading.ofJson m.toJson) = .ok m := by
  have hunits : Decoder.int64 (Reading.ofJson (.int m.units)) = .ok m.units :=
    Decoder.integer_ofJson m.units_bounds.1 (Int.lt_add_one_iff.mp m.units_bounds.2)
  have hnanos : Decoder.int32 (Reading.ofJson (.int m.nanos)) = .ok m.nanos :=
    Decoder.integer_ofJson m.nanos_bounds.1 (Int.lt_add_one_iff.mp m.nanos_bounds.2)
  have hfields : fields.decode (Reading.ofJson m.toJson) =
      .ok (m.currency, m.units, m.nanos, ()) :=
    Fields.decode_ofJson (by decide)
      ⟨rfl, m.currency.decoder_toJson, rfl, hunits, rfl, hnanos, rfl⟩
  refine Decoder.check_eq_ok hfields ?_
  show (ofParts m.currency m.units m.nanos).mapError _ = _
  rw [ofParts_units_nanos]
  rfl

/-- The numbers of an amount fit. -/
theorem toJson_fits (m : Money) : m.toJson.Fits := by
  have hunits := m.units_bounds
  have hnanos := m.nanos_bounds
  refine ⟨trivial, ⟨hunits.1, by omega⟩, ⟨by omega, by omega⟩, trivial⟩

end Money

namespace OrderId

/-- A group of the given size is split off. -/
theorem groups_append {n : Nat} {group : List Char} (h : group.length = n) (sizes : List Nat)
    (rest : List Char) : groups (n :: sizes) (group ++ rest) = group :: groups sizes rest := by
  rw [groups, List.take_left' h, List.drop_left' h]

/-- Characters are split at any place. -/
theorem exists_append_eq {cs : List Char} (n k : Nat) (h : cs.length = n + k) :
    ∃ first rest, cs = first ++ rest ∧ first.length = n ∧ rest.length = k :=
  ⟨cs.take n, cs.drop n, (List.take_append_drop n cs).symm, by simp [h], by simp [h]⟩

/-- A number has 32 digits. -/
theorem length_digits (id : OrderId) :
    (Text.padZeros 32 (Nat.toDigits 16 id.value)).length = 32 := by
  refine Text.length_padZeros ((Nat.length_toDigits_le_iff (by decide) (by decide)).mpr ?_)
  exact id.lt

/-- A number is read as itself. -/
theorem parse?_text (id : OrderId) : parse? id.text = some id := by
  have hdigits := id.length_digits
  have hplain : readPlain? (Text.padZeros 32 (Nat.toDigits 16 id.value)) = some id := by
    rw [readPlain?, if_pos hdigits, Text.hexadecimal?_padZeros, Option.map_some, ofNat]
    simp only [Nat.mod_eq_of_lt id.lt]
  obtain ⟨a, bcde, hcs, ha, hbcde⟩ := exists_append_eq 8 24 hdigits
  obtain ⟨b, cde, rfl, hb, hcde⟩ := exists_append_eq 4 20 hbcde
  obtain ⟨c, de, rfl, hc, hde⟩ := exists_append_eq 4 16 hcde
  obtain ⟨d, e, rfl, hd, he⟩ := exists_append_eq 4 12 hde
  have htext : id.text.toList =
      a ++ (['-'] ++ (b ++ (['-'] ++ (c ++ (['-'] ++ (d ++ (['-'] ++ e))))))) := by
    rw [text, String.toList_ofList, hcs, groupSizes, groups_append ha, groups_append hb,
      groups_append hc, groups_append hd]
    simp [groups, List.intercalate]
  have hgroups : groups [8, 1, 4, 1, 4, 1, 4, 1] id.text.toList =
      [a, ['-'], b, ['-'], c, ['-'], d, ['-'], e] := by
    have hhyphen : ['-'].length = 1 := rfl
    rw [htext, groups_append ha, groups_append hhyphen, groups_append hb, groups_append hhyphen,
      groups_append hc, groups_append hhyphen, groups_append hd, groups_append hhyphen, groups]
  have hlength : id.text.toList.length = 36 := by
    rw [htext]
    simp [ha, hb, hc, hd, he]
  have hread : readHyphenated? id.text.toList = some id := by
    rw [readHyphenated?, hgroups]
    simpa only [List.append_assoc, ← hcs] using hplain
  simp [parse?, hlength, hread]

/-- An order number is decoded. -/
theorem decoder_toJson (id : OrderId) : decoder (Reading.ofJson id.toJson) = .ok id :=
  Decoder.check_eq_ok (Decoder.string_ofJson id.text) (by rw [parse?_text])

end OrderId

/-- An address is decoded. -/
theorem Address.decoder_toJson (a : Address) : decoder (Reading.ofJson a.toJson) = .ok a :=
  fields.map_decode_ofJson (a.street, a.city, a.state, a.country, a.zip, ()) (by decide)
    ⟨rfl, rfl, rfl, rfl, rfl, rfl, rfl, rfl, rfl, rfl, rfl⟩

namespace CartLine

/-- A cart line is decoded. -/
theorem decoder_toJson (line : CartLine) : decoder (Reading.ofJson line.toJson) = .ok line :=
  fields.map_decode_ofJson (line.product, line.quantity, ()) (by decide)
    ⟨rfl, rfl, rfl, Decoder.uint32_ofJson _, rfl⟩

/-- The quantity fits. -/
theorem toJson_fits (line : CartLine) : line.toJson.Fits := by
  have hquantity : line.quantity.toNat < 2 ^ 32 := line.quantity.toNat_lt
  exact ⟨trivial, ⟨by omega, by omega⟩, trivial⟩

end CartLine

namespace PricedLine

/-- A priced line is decoded. -/
theorem decoder_toJson (p : PricedLine) : decoder (Reading.ofJson p.toJson) = .ok p :=
  fields.map_decode_ofJson (p.line, p.cost, ()) (by decide)
    ⟨rfl, p.line.decoder_toJson, rfl, p.cost.decoder_toJson, rfl⟩

/-- The numbers of a priced line fit. -/
theorem toJson_fits (p : PricedLine) : p.toJson.Fits :=
  ⟨p.line.toJson_fits, p.cost.toJson_fits, trivial⟩

end PricedLine

namespace Order

/-- An order is decoded. -/
theorem decoder_toJson (o : Order) : decoder (Reading.ofJson o.toJson) = .ok o := by
  have hlines : Decoder.list PricedLine.decoder
      (Reading.ofJson (.arr (o.lines.map PricedLine.toJson))) = .ok o.lines :=
    Decoder.list_ofJson fun p _ ↦ p.decoder_toJson
  exact fields.map_decode_ofJson
    (o.id, o.trackingId, o.shippingCost, o.shippingAddress, o.lines, o.totalCost, ()) (by decide)
    ⟨rfl, o.id.decoder_toJson, rfl, rfl, rfl, o.shippingCost.decoder_toJson, rfl,
      o.shippingAddress.decoder_toJson, rfl, hlines, rfl, o.totalCost.decoder_toJson, rfl⟩

/-- The numbers of an order fit. -/
theorem toJson_fits (o : Order) : o.toJson.Fits :=
  ⟨trivial, trivial, o.shippingCost.toJson_fits, ⟨trivial, trivial, trivial, trivial, trivial,
    trivial⟩, Json.itemsFit_map fun p _ ↦ p.toJson_fits, o.totalCost.toJson_fits, trivial⟩

/-- The text of an order is read as the order. -/
theorem document_text (o : Order) : Decoder.document decoder o.toJson.text = .ok o :=
  Decoder.document_text o.toJson_fits o.decoder_toJson

end Order

/-- What is absent or is decoded is decoded. -/
theorem Decoder.optional_ofJson {α : Type} {decode : Decoder α} {write : α → Json} (a? : Option α)
    (hnull : ∀ a, Reading.ofJson (write a) ≠ .null)
    (h : ∀ a, decode (Reading.ofJson (write a)) = .ok a) :
    optional decode (Reading.ofJson (OrderRequest.optionToJson write a?)) = .ok a? := by
  cases a? with
  | none => rfl
  | some a =>
      unfold optional OrderRequest.optionToJson
      dsimp only
      split
      · rename_i hread
        exact absurd hread (hnull a)
      · rw [h a]
        rfl

namespace Card

/-- A card is decoded. -/
theorem decoder_toJson (c : Card) : decoder (Reading.ofJson c.toJson) = .ok c := by
  have hyear : Decoder.int32 (Reading.ofJson (.int c.expirationYear.toInt)) =
      .ok c.expirationYear.toInt :=
    Decoder.integer_ofJson c.expirationYear.le_toInt
      (Int.lt_add_one_iff.mp c.expirationYear.toInt_lt)
  have hmade : decoder (Reading.ofJson c.toJson) =
      .ok ⟨c.number, c.cvv, .ofInt c.expirationYear.toInt, c.expirationMonth⟩ :=
    fields.map_decode_ofJson
      (c.number, c.cvv, c.expirationYear.toInt, c.expirationMonth, ()) (by decide)
      ⟨rfl, rfl, rfl, Decoder.uint32_ofJson _, rfl, hyear, rfl, Decoder.uint32_ofJson _, rfl⟩
  rw [hmade, Int32.ofInt_toInt]

/-- The numbers of a card fit. -/
theorem toJson_fits (c : Card) : c.toJson.Fits := by
  have hcvv : c.cvv.toNat < 2 ^ 32 := c.cvv.toNat_lt
  have hmonth : c.expirationMonth.toNat < 2 ^ 32 := c.expirationMonth.toNat_lt
  have hlow := c.expirationYear.le_toInt
  have hhigh := c.expirationYear.toInt_lt
  refine ⟨trivial, ⟨?_, ?_⟩, ⟨?_, ?_⟩, ⟨?_, ?_⟩, trivial⟩ <;> omega

end Card

namespace OrderRequest

/-- A request is decoded. -/
theorem decoder_toJson (r : OrderRequest) : decoder (Reading.ofJson r.toJson) = .ok r := by
  have haddress := Decoder.optional_ofJson r.address (fun a h ↦ by cases h) Address.decoder_toJson
  have hcard := Decoder.optional_ofJson r.card (fun c h ↦ by cases h) Card.decoder_toJson
  exact fields.map_decode_ofJson (r.user, r.currency, r.address, r.email, r.card, ()) (by decide)
    ⟨rfl, rfl, rfl, rfl, rfl, haddress, rfl, rfl, rfl, hcard, rfl⟩

/-- The numbers of a request fit. -/
theorem toJson_fits (r : OrderRequest) : r.toJson.Fits := by
  refine ⟨trivial, trivial, ?_, trivial, ?_, trivial⟩
  · cases r.address <;> trivial
  · cases r.card with
    | none => trivial
    | some card => exact card.toJson_fits

/-- The bytes of a request are read as the request. -/
theorem bytes_text (r : OrderRequest) : decoder.bytes (Text.utf8 r.toJson.text) = .ok r := by
  rw [Decoder.bytes, Document.scanBytes_utf8]
  exact Decoder.document_text r.toJson_fits r.decoder_toJson

end OrderRequest

end Storefront
