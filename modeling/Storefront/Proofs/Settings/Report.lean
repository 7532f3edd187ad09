import Storefront.Proofs.Binary64.Layout
import Storefront.Proofs.Json.Decode
import Storefront.Settings.Report

/-!
# What a report of settings tells

A report of settings tells them all, `Settings.toJson_injective`: numbers by their digits, the
sampled share by its word, of which there is one for each number and one for what is not a number.
-/

namespace Storefront

/-- No two formats have one name. -/
theorem LogFormat.name_injective : Function.Injective LogFormat.name := by
  intro f g h
  cases f <;> cases g <;> first | rfl | simp only [name, String.reduceEq] at h

/-- The settings of follow-up work are told by their members. -/
theorem FollowUpSettings.members_injective : Function.Injective FollowUpSettings.members := by
  rintro ⟨topic, publish, notify⟩ ⟨other, timeout, limit⟩ h
  simpa [members, Text.decimal_inj] using h

/-- Settings are told by their report. -/
theorem Settings.toJson_injective : Function.Injective Settings.toJson := by
  intro s t h
  -- The settings of follow-up work come first, and are three in number.
  obtain ⟨hfollowUp, h⟩ := List.append_inj (Json.obj.inj h) rfl
  simp only [List.cons.injEq, Prod.mk.injEq, true_and, and_true, Json.str.injEq, Json.int.injEq,
    Json.bool.injEq, Text.decimal_inj, Int.natCast_inj] at h
  obtain ⟨hhost, hport, -, hlevel, hformat, hurl, hratio, hpayment, hextra, hretention, -⟩ := h
  have hurl := Json.optional_injective (fun _ _ h ↦ Json.str.inj h) (fun _ h ↦ by cases h) hurl
  rcases s with ⟨host, port, level, format, followUp, url, ratio, payment, extra, retention⟩
  rcases t
  simp only [Settings.mk.injEq]
  exact ⟨hhost, hport, hlevel, LogFormat.name_injective hformat,
    FollowUpSettings.members_injective hfollowUp, hurl, Binary64.hex_injective hratio, hpayment,
    hextra, hretention⟩

end Storefront
