import Storefront.Call.Report
import Storefront.Proofs.Order.RoundTrip
import Storefront.Proofs.Trace.Report

/-!
# What reports of calls tell

A reply to a request is told by its report, `Request.replyJson_injective`, and so is a call record
with the context that its carrier held, `CallRecord.toJson_injective`.
-/

namespace Storefront

/-- Users are told by their names. -/
theorem UserId.toJson_injective : Function.Injective UserId.toJson := fun _ _ h ↦
  congrArg UserId.mk (Json.str.inj h)

/-- Products are told by their names. -/
theorem ProductId.toJson_injective : Function.Injective ProductId.toJson := fun _ _ h ↦
  congrArg ProductId.mk (Json.str.inj h)

/-- Prices are told by their report, and so is that there is none. -/
theorem Money.optional_toJson_injective :
    Function.Injective fun price : Option Money ↦ (price.map Money.toJson).getD .null :=
  Json.optional_injective (Decoder.injective_of_ofJson Money.decoder_toJson) fun _ h ↦ by cases h

/-- A reply is told by its report, given the request that it is a reply to. -/
theorem Request.replyJson_injective (request : Request) :
    Function.Injective request.replyJson := by
  intro reply other h
  cases request with
  | getCart user =>
      obtain ⟨owner, lines⟩ := reply
      obtain ⟨user, others⟩ := other
      simp only [replyJson, Json.obj.injEq, List.cons.injEq, Prod.mk.injEq, true_and, and_true,
        Json.arr.injEq] at h
      have hline := Decoder.injective_of_ofJson CartLine.decoder_toJson
      rw [UserId.toJson_injective h.1, List.map_injective_iff.mpr hline h.2]
  | getProduct product =>
      obtain ⟨product, name, price⟩ := reply
      obtain ⟨sold, label, cost⟩ := other
      simp only [replyJson, Json.obj.injEq, List.cons.injEq, Prod.mk.injEq, true_and, and_true,
        Json.str.injEq] at h
      obtain ⟨hproduct, hname, hprice⟩ := h
      rw [ProductId.toJson_injective hproduct, hname, Money.optional_toJson_injective hprice]
  | getQuote =>
      simp only [replyJson, Json.obj.injEq, List.cons.injEq, Prod.mk.injEq, true_and,
        and_true] at h
      exact Money.optional_toJson_injective h
  | convert => exact Decoder.injective_of_ofJson Money.decoder_toJson h
  | charge | shipOrder =>
      simpa only [replyJson, Json.obj.injEq, List.cons.injEq, Prod.mk.injEq, true_and, and_true,
        Json.str.injEq] using h
  | emptyCart | confirm => rfl

/-- A call record is told by its report. -/
theorem CallRecord.toJson_injective : Function.Injective CallRecord.toJson := by
  rintro ⟨service, method, context⟩ ⟨other, others, received⟩ h
  simp only [toJson, Json.obj.injEq, List.cons.injEq, Prod.mk.injEq, true_and, and_true,
    Json.str.injEq] at h
  obtain ⟨rfl, rfl, hcontext⟩ := h
  rw [Context.toJson_injective hcontext]

end Storefront
