import Storefront.Proofs.Binary64.Numeral
import Storefront.Proofs.Binary64.UnitRange
import Storefront.Settings
import Storefront.Trace.Tracer

/-!
# The share of traces that is recorded

The share is read from a variable that holds the text of a number. `share_is_clamped` says what it
is for every environment: the number nearest to the given one after that was moved into the range
from zero to one, and one when the variable is missing or holds no number. There is one exception.
The text `nan` is read as well, and what it stands for is not moved anywhere: the share is then a
not-a-number. A tracer looks for this case and takes it for zero, `Tracer.exists_hasValue_ratio`, so
that nothing is recorded where everything is without that text, `nan_is_taken`.
-/

namespace Storefront

open Binary64

/-- A tracer takes a share from zero to one, whatever number it is given, and zero if that is a
not-a-number. -/
theorem Tracer.exists_hasValue_ratio (ratio : Float) (seed : Nat) :
    ∃ r, HasValue (Tracer.new ratio seed).ratio r ∧ 0 ≤ r ∧ r ≤ 1 ∧
      (ratio.isNaN = true → r = 0) := by
  change ∃ r, HasValue (Tracer.clampRatio ratio) r ∧ 0 ≤ r ∧ r ≤ 1 ∧ _
  unfold Tracer.clampRatio
  split
  · exact ⟨0, hasValue_ofInt_zero, le_rfl, zero_le_one, fun _ ↦ rfl⟩
  · rename_i hnumber
    obtain ⟨a, ha⟩ := Option.ne_none_iff_exists'.mp (mt (value?_eq_none_iff ratio).mp hnumber)
    obtain ⟨r, hr, hzero, hone⟩ := exists_hasValue_clampUnit ha
    exact ⟨r, hr, hzero, hone, fun hnan ↦ absurd hnan hnumber⟩

namespace Settings

/-- `GivesShare lookup quantity` says that the variable of the share holds the text of a number. -/
def GivesShare (lookup : String → Option String) (quantity : Quantity) : Prop :=
  ∃ text, lookup "TRACE_SAMPLE_RATIO" = some text ∧ Denotes (Text.trim text).toList quantity

/-- Only the variable of the share is looked at for the share. -/
theorem sampleRatio_ofLookup (lookup : String → Option String) :
    (ofLookup lookup).sampleRatio =
      ((lookup "TRACE_SAMPLE_RATIO").bind readShare).getD (ofInt 1) :=
  rfl

section

variable {lookup : String → Option String}

/-- A share that is given is read, and moved into the range from zero to one. -/
theorem GivesShare.exists_sampleRatio {quantity : Quantity} (h : GivesShare lookup quantity) :
    ∃ x, quantity.Represents x ∧ (ofLookup lookup).sampleRatio = clampUnit x := by
  obtain ⟨text, hlookup, hdenotes⟩ := h
  obtain ⟨x, hread, hrepresents⟩ := hdenotes.exists_read?
  refine ⟨x, hrepresents, ?_⟩
  rw [sampleRatio_ofLookup, hlookup, Option.bind_some, readShare, hread, Option.map_some,
    Option.getD_some]

/-- If no share is given it is one. -/
theorem sampleRatio_of_forall_not (h : ∀ quantity, ¬GivesShare lookup quantity) :
    (ofLookup lookup).sampleRatio = ofInt 1 := by
  have hnone : (lookup "TRACE_SAMPLE_RATIO").bind readShare = none := by
    rw [Option.bind_eq_none_iff]
    intro text hlookup
    rw [readShare, Option.map_eq_none_iff, Option.eq_none_iff_forall_ne_some]
    intro x hread
    obtain ⟨quantity, hdenotes, -⟩ := exists_denotes_of_read? hread
    exact h quantity ⟨text, hlookup, hdenotes⟩
  rw [sampleRatio_ofLookup, hnone, Option.getD_none]

/-- A not-a-number is kept. -/
theorem GivesShare.value?_eq_none (h : GivesShare lookup .nan) :
    value? (ofLookup lookup).sampleRatio = none := by
  obtain ⟨x, hx, hratio⟩ := h.exists_sampleRatio
  rw [hratio, clampUnit_of_value?_eq_none hx]
  exact hx

/-- An infinite share is all or nothing. -/
theorem GivesShare.hasValue {negative : Bool} (h : GivesShare lookup (.infinite negative)) :
    HasValue (ofLookup lookup).sampleRatio (if negative then 0 else 1) := by
  obtain ⟨x, hx, hratio⟩ := h.exists_sampleRatio
  rw [hratio]
  cases negative with
  | true => exact hasValue_clampUnit_of_le_zero hx bot_le
  | false => exact hasValue_clampUnit_of_one_le hx le_top

/-- Every other share is the number nearest to what is given, in the range from zero to one. -/
theorem GivesShare.isRounding {q : ℚ} (h : GivesShare lookup (.number q)) :
    IsRounding (max 0 (min q 1)) (ofLookup lookup).sampleRatio := by
  obtain ⟨x, hx, hratio⟩ := h.exists_sampleRatio
  rw [hratio]
  exact hx.clamped

/-- The share is in the range from zero to one unless a not-a-number is given. -/
theorem exists_hasValue_sampleRatio (h : ¬GivesShare lookup .nan) :
    ∃ r, HasValue (ofLookup lookup).sampleRatio r ∧ 0 ≤ r ∧ r ≤ 1 := by
  by_cases hgiven : ∃ quantity, GivesShare lookup quantity
  · obtain ⟨quantity, hgiven⟩ := hgiven
    obtain ⟨x, hx, hratio⟩ := hgiven.exists_sampleRatio
    rw [hratio]
    cases quantity with
    | nan => exact absurd hgiven h
    | infinite negative => exact exists_hasValue_clampUnit hx
    | number q =>
        obtain ⟨a, ha⟩ := hx.exists_value?
        exact exists_hasValue_clampUnit ha
  · rw [sampleRatio_of_forall_not (not_exists.mp hgiven)]
    exact ⟨1, hasValue_ofInt_one, zero_le_one, le_rfl⟩

end

/-- In every environment, the share is in the range from zero to one unless the text of a
not-a-number is given, and is a not-a-number if it is. A number that is given is moved into the
range and rounded to the nearest number, and what is infinite is moved to an end of the range. The
share is one when no text of a number is given. -/
theorem share_is_clamped (lookup : String → Option String) :
    ((ofLookup lookup).sampleRatio.isNaN = true ↔ GivesShare lookup .nan) ∧
    (¬GivesShare lookup .nan →
      ∃ r, HasValue (ofLookup lookup).sampleRatio r ∧ 0 ≤ r ∧ r ≤ 1) ∧
    (∀ q, GivesShare lookup (.number q) →
      IsRounding (max 0 (min q 1)) (ofLookup lookup).sampleRatio) ∧
    (∀ negative, GivesShare lookup (.infinite negative) →
      HasValue (ofLookup lookup).sampleRatio (if negative then 0 else 1)) ∧
    ((∀ quantity, ¬GivesShare lookup quantity) →
      (ofLookup lookup).sampleRatio = standard.sampleRatio ∧ HasValue standard.sampleRatio 1) := by
  refine ⟨?_, exists_hasValue_sampleRatio, fun q ↦ GivesShare.isRounding,
    fun negative ↦ GivesShare.hasValue,
    fun hnone ↦ ⟨sampleRatio_of_forall_not hnone, hasValue_ofInt_one⟩⟩
  rw [← value?_eq_none_iff]
  refine ⟨fun hnone ↦ ?_, GivesShare.value?_eq_none⟩
  by_contra hnan
  obtain ⟨r, hr, -⟩ := exists_hasValue_sampleRatio hnan
  rw [HasValue, hnone] at hr
  cases hr

example :
    parts (ofLookup fun _ ↦ some " +25e-2\n").sampleRatio = .finite false (2 ^ 52) (-54) := by
  decide +kernel

/-- An environment where nothing is set but the share, to the text `nan`. -/
def unnumbered (name : String) : Option String :=
  if name = "TRACE_SAMPLE_RATIO" then some "nan" else none

/-- The text `nan` makes the share a not-a-number, which is not in the range from zero to one and is
not the share of an environment where nothing is set. A tracer takes it for zero. -/
theorem nan_is_taken :
    (ofLookup unnumbered).sampleRatio.isNaN = true ∧
      (¬∃ r, HasValue (ofLookup unnumbered).sampleRatio r ∧ 0 ≤ r ∧ r ≤ 1) ∧
      (ofLookup fun _ ↦ none).sampleRatio.isNaN = false ∧
      ∀ seed, HasValue (Tracer.new (ofLookup unnumbered).sampleRatio seed).ratio 0 := by
  have hnan : (ofLookup unnumbered).sampleRatio.isNaN = true := by decide +kernel
  refine ⟨hnan, ?_, by decide +kernel, fun seed ↦ ?_⟩
  · rintro ⟨r, hr, -⟩
    rw [HasValue, (value?_eq_none_iff _).mpr hnan] at hr
    cases hr
  · obtain ⟨r, hr, -, -, hzero⟩ :=
      Tracer.exists_hasValue_ratio (ofLookup unnumbered).sampleRatio seed
    exact hzero hnan ▸ hr

end Settings

end Storefront
