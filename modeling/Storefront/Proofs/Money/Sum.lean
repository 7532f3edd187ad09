import Mathlib.Algebra.Order.BigOperators.Group.List
import Mathlib.Algebra.Order.Group.Int
import Mathlib.Algebra.Ring.Int.Defs
import Storefront.Proofs.Money.NanoTotal

/-!
# Sums of amounts

A sum of amounts looks at its range after every addition, `foldlM_add`, so amounts on both sides of
zero may overflow on the way to a sum that would fit. Amounts on one side of zero cannot: their sum
is exact wherever the whole is in range, `sum_eq_ofTotal`. The main theorem, `multiply_distributes`,
is about the sum of a single amount with itself.
-/

namespace Storefront.Money

/-- Amounts of one currency add up to the sum of their totals, unless a sum on the way is out of
range. -/
theorem foldlM_add {start : Money} {amounts : List Money}
    (hcurrency : ∀ a ∈ amounts, a.currency = start.currency) :
    (∃ t, amounts.foldlM add start = .ok t ∧ t.currency = start.currency ∧
      t.total = start.total + (amounts.map total).sum ∧
      ∀ first, first <+: amounts.map total → InRange (start.total + first.sum)) ∨
    (amounts.foldlM add start = .error .overflow ∧
      ∃ first, first <+: amounts.map total ∧ ¬InRange (start.total + first.sum)) := by
  induction amounts generalizing start with
  | nil =>
      refine .inl ⟨start, rfl, rfl, by simp, fun first hfirst ↦ ?_⟩
      obtain rfl := List.prefix_nil.mp hfirst
      simpa using start.inRange_total
  | cons a rest ih =>
      have ha : start.currency = a.currency := (hcurrency a List.mem_cons_self).symm
      rw [List.foldlM_cons, List.map_cons]
      cases hsum : start.add a with
      -- The sum that is out of range is that of the first amount alone.
      | error e =>
          rw [add_eq_ofTotal ha] at hsum
          obtain ⟨rfl, hrange⟩ := ofTotal_eq_error_iff.mp hsum
          exact .inr ⟨rfl, [a.total], by simp, by simpa using hrange⟩
      | ok sum =>
          obtain ⟨-, hsame, htotal⟩ := add_eq_ok_iff.mp hsum
          have hrest : ∀ b ∈ rest, b.currency = sum.currency := fun b hb ↦
            (hcurrency b (List.mem_cons_of_mem a hb)).trans hsame.symm
          rcases ih hrest with ⟨t, hfold, hcode, ht, hranges⟩ | ⟨hfold, first, hfirst, hrange⟩
          · refine .inl ⟨t, hfold, hcode.trans hsame, ?_, fun first hfirst ↦ ?_⟩
            · rw [ht, htotal, List.sum_cons, Int.add_assoc]
            · rcases List.prefix_cons_iff.mp hfirst with rfl | ⟨later, rfl, hlater⟩
              · simpa using start.inRange_total
              · rw [List.sum_cons, ← Int.add_assoc, ← htotal]
                exact hranges later hlater
          · refine .inr ⟨hfold, a.total :: first, List.cons_prefix_cons.mpr ⟨rfl, hfirst⟩, ?_⟩
            rwa [List.sum_cons, ← Int.add_assoc, ← htotal]

/-- What lies between nothing and a total in range is in range. -/
theorem InRange.of_between {s t : Int} (ht : InRange t) (h : 0 ≤ s ∧ s ≤ t ∨ t ≤ s ∧ s ≤ 0) :
    InRange s := by
  unfold InRange least greatest nanosPerUnit at *
  omega

/-- Nothing on a list is below zero, or nothing is above zero. -/
def OneSided (parts : List Int) : Prop :=
  (∀ x ∈ parts, 0 ≤ x) ∨ ∀ x ∈ parts, x ≤ 0

/-- Where all parts lie on one side of zero, a sum of some of them is in range if the whole is. -/
theorem OneSided.inRange {chosen parts : List Int} (h : OneSided parts)
    (hchosen : chosen.Sublist parts) (hwhole : InRange parts.sum) : InRange chosen.sum := by
  rcases h with habove | hbelow
  · have hnonneg : 0 ≤ chosen.sum := List.sum_nonneg fun x hx ↦ habove x (hchosen.subset hx)
    exact hwhole.of_between (.inl ⟨hnonneg, hchosen.sum_le_sum habove⟩)
  -- Below zero the order of the integers is turned round.
  · have hnonpos : chosen.sum ≤ 0 :=
      List.sum_nonneg (M := Intᵒᵈ) fun x hx ↦ hbelow x (hchosen.subset hx)
    have hle : parts.sum ≤ chosen.sum := hchosen.sum_le_sum (M := Intᵒᵈ) hbelow
    exact hwhole.of_between (.inr ⟨hle, hnonpos⟩)

/-- Amounts on one side of zero add up to their exact sum, or overflow if that is out of range. -/
theorem sum_eq_ofTotal {currency : CurrencyCode} {amounts : List Money}
    (hcurrency : ∀ a ∈ amounts, a.currency = currency) (hside : OneSided (amounts.map total)) :
    sum currency amounts = ofTotal currency (amounts.map total).sum := by
  have hstart : ∀ a ∈ amounts, a.currency = (zero currency).currency := hcurrency
  have hfold := foldlM_add hstart
  rw [total_zero] at hfold
  simp only [Int.zero_add] at hfold
  unfold sum
  rcases hfold with ⟨t, hsum, hcode, htotal, -⟩ | ⟨hsum, first, hfirst, hrange⟩
  · rw [hsum]
    exact (ofTotal_eq_ok_iff.mpr ⟨hcode, htotal⟩).symm
  · have hwhole : ¬InRange (amounts.map total).sum := fun hwhole ↦
      hrange (hside.inRange hfirst.sublist hwhole)
    rw [hsum]
    exact (ofTotal_eq_error_iff.mpr ⟨rfl, hwhole⟩).symm

/-- Two totals on one side of zero may be split into words before they are added or after. -/
theorem add_ofTotal (currency : CurrencyCode) {s t : Int} (h : OneSided [s, t]) :
    (do (← ofTotal currency s).add (← ofTotal currency t)) = ofTotal currency (s + t) := by
  have hpart : ∀ x ∈ [s, t], ¬InRange x → ofTotal currency (s + t) = .error .overflow := by
    intro x hx hrange
    refine ofTotal_eq_error_iff.mpr ⟨rfl, fun hwhole ↦ hrange ?_⟩
    simpa using h.inRange (List.singleton_sublist.mpr hx) (by simpa using hwhole)
  cases hs : ofTotal currency s with
  | error e =>
      obtain ⟨rfl, hrange⟩ := ofTotal_eq_error_iff.mp hs
      exact (hpart s (by simp) hrange).symm
  | ok first =>
      cases ht : ofTotal currency t with
      | error e =>
          obtain ⟨rfl, hrange⟩ := ofTotal_eq_error_iff.mp ht
          exact (hpart t (by simp) hrange).symm
      | ok second =>
          obtain ⟨hfirst, rfl⟩ := ofTotal_eq_ok_iff.mp hs
          obtain ⟨hsecond, rfl⟩ := ofTotal_eq_ok_iff.mp ht
          show first.add second = _
          rw [add_eq_ofTotal (hfirst.trans hsecond.symm), hfirst]

/-- Multiples of one total lie on one side of zero. -/
theorem oneSided_of_multiples (total : Int) {parts : List Int}
    (h : ∀ x ∈ parts, ∃ n : Nat, x = total * n) : OneSided parts := by
  rcases Int.le_total 0 total with hsign | hsign
  · left
    intro x hx
    obtain ⟨n, rfl⟩ := h x hx
    exact Int.mul_nonneg hsign (Int.natCast_nonneg n)
  · right
    intro x hx
    obtain ⟨n, rfl⟩ := h x hx
    exact Int.mul_nonpos_of_nonpos_of_nonneg hsign (Int.natCast_nonneg n)

/-- A number of times an amount is the amount added to nothing so many times, and so many times and
more is the sum of both, whether or not there is one: all that can fail is that the product is out
of range. -/
theorem multiply_distributes (a : Money) :
    (∀ n : UInt32, a.multiply n.toNat = sum a.currency (List.replicate n.toNat a)) ∧
    (∀ m n : UInt32, m.toNat + n.toNat < 2 ^ 32 →
      a.multiply (m + n).toNat = do (← a.multiply m.toNat).add (← a.multiply n.toNat)) ∧
    ∀ (n : UInt32) (e : MoneyError),
      a.multiply n.toNat = .error e ↔ e = .overflow ∧ ¬InRange (a.total * n.toNat) := by
  refine ⟨fun n ↦ ?_, fun m n hfits ↦ ?_, fun n e ↦ ?_⟩
  · have hside : OneSided ((List.replicate n.toNat a).map total) := by
      refine oneSided_of_multiples a.total fun x hx ↦ ⟨1, ?_⟩
      rw [List.map_replicate] at hx
      rw [List.eq_of_mem_replicate hx, Nat.cast_one, Int.mul_one]
    rw [multiply_eq_ofTotal, sum_eq_ofTotal (fun b hb ↦ by rw [List.eq_of_mem_replicate hb]) hside,
      List.map_replicate, List.sum_replicate, nsmul_eq_mul, Int.mul_comm]
  · have hsum : (m + n).toNat = m.toNat + n.toNat := by
      rw [UInt32.toNat_add, Nat.mod_eq_of_lt hfits]
    have hside : OneSided [a.total * m.toNat, a.total * n.toNat] := by
      refine oneSided_of_multiples a.total ?_
      rintro x (_ | ⟨_, _ | ⟨_, ⟨⟩⟩⟩)
      · exact ⟨m.toNat, rfl⟩
      · exact ⟨n.toNat, rfl⟩
    rw [multiply_eq_ofTotal, multiply_eq_ofTotal, multiply_eq_ofTotal, add_ofTotal _ hside,
      ← Int.mul_add, hsum, Nat.cast_add]
  · rw [multiply_eq_ofTotal, ofTotal_eq_error_iff]

/-- Half of the least amount that has no nanos. -/
def halfLeast : Money :=
  ofUnits .usd (-4611686018427387904)

/-- That amount twice is a whole number of units that has no counterpart above zero. -/
theorem two_halves_fit :
    (1 : UInt32).toNat + (1 : UInt32).toNat < 2 ^ 32 ∧
      halfLeast.multiply (1 + 1 : UInt32).toNat =
        (do
          let half ← halfLeast.multiply (1 : UInt32).toNat
          half.add (← halfLeast.multiply (1 : UInt32).toNat)) ∧
      halfLeast.multiply (1 + 1 : UInt32).toNat = .ok (ofUnits .usd Int64.minValue) := by
  have hfits : (1 : UInt32).toNat + (1 : UInt32).toNat < 2 ^ 32 := by decide
  exact ⟨hfits, (multiply_distributes halfLeast).2.1 1 1 hfits, by decide⟩

end Storefront.Money
