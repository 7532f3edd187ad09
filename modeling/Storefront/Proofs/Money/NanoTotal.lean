import Mathlib.Logic.Function.Defs
import Storefront.Order.Json

/-!
# Nano totals

An amount is its currency and its nano total. `ofTotal_eq_ok_iff` says so for the split of a total
into words, and everything that is computed through `ofTotal` follows from it. The main theorem,
`arithmetic_is_exact`, says that sums and products are those of the integers wherever the result is
in range, and overflow exactly where it is not.
-/

namespace Storefront.Money

/-- The least nano total of an amount. -/
def least : Int := -(9223372036854775808 * nanosPerUnit + 999999999)

/-- The greatest nano total of an amount. -/
def greatest : Int := 9223372036854775807 * nanosPerUnit + 999999999

/-- A nano total lies between the least and the greatest one. -/
def InRange (total : Int) : Prop :=
  least ≤ total ∧ total ≤ greatest

/-- `InRange` is decidable by two comparisons. -/
instance (total : Int) : Decidable (InRange total) :=
  inferInstanceAs (Decidable (_ ∧ _))

/-- The units that a total in range is split into are those that a 64-bit word keeps. -/
theorem inRange_iff {total : Int} : InRange total ↔
    Int64.minValue.toInt ≤ total.tdiv nanosPerUnit ∧
      total.tdiv nanosPerUnit ≤ Int64.maxValue.toInt := by
  rw [Int64.toInt_minValue, Int64.toInt_maxValue]
  unfold InRange least greatest nanosPerUnit
  rcases Int.le_total 0 total with h | h
  · rw [Int.tdiv_eq_ediv_of_nonneg h]
    omega
  -- Below zero the division rounds up, which is that of the size with the sign put back.
  · obtain ⟨size, rfl⟩ : ∃ size, total = -size := ⟨-total, by omega⟩
    rw [Int.neg_tdiv, Int.tdiv_eq_ediv_of_nonneg (by omega)]
    omega

/-- Units and nanos that describe an amount are quotient and remainder of their total. -/
theorem WellFormed.tdiv_tmod {units nanos : Int} (h : WellFormed units nanos) :
    (units * nanosPerUnit + nanos).tdiv nanosPerUnit = units ∧
      (units * nanosPerUnit + nanos).tmod nanosPerUnit = nanos := by
  unfold WellFormed nanosPerUnit at *
  rcases Int.le_total 0 (units * 1000000000 + nanos) with hsign | hsign
  · rw [Int.tdiv_eq_ediv_of_nonneg hsign, Int.tmod_eq_emod_of_nonneg hsign]
    omega
  · have hneg : 0 ≤ -(units * 1000000000 + nanos) := by omega
    rw [← Int.neg_neg (units * 1000000000 + nanos), Int.neg_tdiv, Int.neg_tmod,
      Int.tdiv_eq_ediv_of_nonneg hneg, Int.tmod_eq_emod_of_nonneg hneg]
    omega

/-- The units are the total divided by the nanos of a unit, toward zero. -/
theorem tdiv_total (m : Money) : m.total.tdiv nanosPerUnit = m.units :=
  m.wellFormed.tdiv_tmod.1

/-- The nanos are the remainder of that division. -/
theorem tmod_total (m : Money) : m.total.tmod nanosPerUnit = m.nanos :=
  m.wellFormed.tdiv_tmod.2

/-- The total of an amount is in range. -/
theorem inRange_total (m : Money) : InRange m.total := by
  rw [inRange_iff, tdiv_total]
  exact ⟨m.unitWord.minValue_le_toInt, m.unitWord.toInt_le⟩

/-- An amount is determined by its currency, units, and nanos. -/
theorem eq_of_parts {a b : Money} (hcurrency : a.currency = b.currency)
    (hunits : a.units = b.units) (hnanos : a.nanos = b.nanos) : a = b := by
  obtain ⟨currency, unitWord, nanoWord, _⟩ := a
  obtain ⟨_, _, _, _⟩ := b
  obtain rfl := hcurrency
  obtain rfl := Int64.toInt_inj.mp hunits
  obtain rfl := Int32.toInt_inj.mp hnanos
  rfl

/-- An amount is determined by its currency and its total. -/
theorem eq_of_total {a b : Money} (hcurrency : a.currency = b.currency)
    (htotal : a.total = b.total) : a = b := by
  refine eq_of_parts hcurrency ?_ ?_
  · rw [← tdiv_total, ← tdiv_total, htotal]
  · rw [← tmod_total, ← tmod_total, htotal]

/-- Nothing has the total zero. -/
@[simp] theorem total_zero (currency : CurrencyCode) : (zero currency).total = 0 := by
  simp [total, units, nanos, zero, ofUnits]

/-- What a total is split into has that total. -/
theorem total_of_ofTotal {currency : CurrencyCode} {total : Int} {m : Money}
    (h : ofTotal currency total = .ok m) : m.currency = currency ∧ m.total = total := by
  unfold ofTotal at h
  split at h
  · injection h with h
    subst h
    refine ⟨rfl, ?_⟩
    unfold Money.total units nanos
    rw [Int64.toInt_ofIntLE, toInt_nanoWord, Int.mul_comm]
    exact Int.mul_tdiv_add_tmod total nanosPerUnit
  · cases h

/-- A total in range is the total of an amount. -/
theorem exists_ofTotal {total : Int} (currency : CurrencyCode) (h : InRange total) :
    ∃ m, ofTotal currency total = .ok m := by
  unfold ofTotal
  rw [dif_pos (inRange_iff.mp h)]
  exact ⟨_, rfl⟩

/-- A total is split into the amount that has it. -/
theorem ofTotal_eq_ok_iff {currency : CurrencyCode} {total : Int} {m : Money} :
    ofTotal currency total = .ok m ↔ m.currency = currency ∧ m.total = total := by
  refine ⟨total_of_ofTotal, fun ⟨hcurrency, htotal⟩ ↦ ?_⟩
  obtain ⟨other, hother⟩ := exists_ofTotal currency (htotal ▸ m.inRange_total)
  obtain ⟨hcurrency', htotal'⟩ := total_of_ofTotal hother
  rw [hother, eq_of_total (hcurrency'.trans hcurrency.symm) (htotal'.trans htotal.symm)]

/-- A total fails to be split when it is out of range, and then by overflow. -/
theorem ofTotal_eq_error_iff {currency : CurrencyCode} {total : Int} {e : MoneyError} :
    ofTotal currency total = .error e ↔ e = .overflow ∧ ¬InRange total := by
  unfold ofTotal
  rw [inRange_iff]
  split
  · rename_i h
    exact ⟨fun hok ↦ (nomatch hok), fun herr ↦ absurd h herr.2⟩
  · rename_i h
    exact ⟨fun herr ↦ ⟨(Except.error.inj herr).symm, h⟩, fun herr ↦ herr.1 ▸ rfl⟩

/-- An amount is negative exactly if its total is. -/
theorem isNegative_iff (m : Money) : m.isNegative = true ↔ m.total < 0 := by
  obtain ⟨hlow, hhigh, hpositive, hnegative⟩ := m.wellFormed
  change -nanosPerUnit < m.nanos at hlow
  change m.nanos < nanosPerUnit at hhigh
  change ¬(0 < m.units ∧ m.nanos < 0) at hpositive
  change ¬(m.units < 0 ∧ 0 < m.nanos) at hnegative
  simp only [isNegative, total, nanosPerUnit, Bool.or_eq_true, decide_eq_true_eq] at *
  omega

/-- The answer of a computation in a currency whose exact nano total is known: the only amount with
that total, or overflow if there is none. -/
def IsExact (currency : CurrencyCode) (total : Int) : Except MoneyError Money → Prop
  | .ok m => InRange total ∧ m.currency = currency ∧ m.total = total ∧
      ∀ other : Money, other.currency = currency → other.total = total → other = m
  | .error e => ¬InRange total ∧ e = .overflow

/-- Splitting a total is exact. -/
theorem isExact_ofTotal (currency : CurrencyCode) (total : Int) :
    IsExact currency total (ofTotal currency total) := by
  cases h : ofTotal currency total with
  | ok m =>
      obtain ⟨hcurrency, htotal⟩ := ofTotal_eq_ok_iff.mp h
      refine ⟨htotal ▸ m.inRange_total, hcurrency, htotal, fun other hc ht ↦ ?_⟩
      exact eq_of_total (hc.trans hcurrency.symm) (ht.trans htotal.symm)
  | error e =>
      obtain ⟨herror, hrange⟩ := ofTotal_eq_error_iff.mp h
      exact ⟨hrange, herror⟩

/-- Amounts of one currency are added by adding their totals. -/
theorem add_eq_ofTotal {a b : Money} (h : a.currency = b.currency) :
    a.add b = ofTotal a.currency (a.total + b.total) :=
  if_pos h

/-- Amounts of two currencies are not added. -/
theorem add_eq_mismatch {a b : Money} (h : a.currency ≠ b.currency) :
    a.add b = .error (.currencyMismatch a.currency b.currency) :=
  if_neg h

/-- The total of a sum. -/
theorem add_eq_ok_iff {a b m : Money} :
    a.add b = .ok m ↔
      a.currency = b.currency ∧ m.currency = a.currency ∧ m.total = a.total + b.total := by
  by_cases h : a.currency = b.currency
  · rw [add_eq_ofTotal h, ofTotal_eq_ok_iff]
    exact (and_iff_right h).symm
  · rw [add_eq_mismatch h]
    exact ⟨fun hok ↦ (nomatch hok), fun hok ↦ absurd hok.1 h⟩

/-- The addition fails by a mismatch exactly when the currencies differ. -/
theorem add_mismatch_iff {a b : Money} :
    (∃ left right, a.add b = .error (.currencyMismatch left right)) ↔
      a.currency ≠ b.currency := by
  refine ⟨fun ⟨left, right, h⟩ hsame ↦ ?_, fun h ↦ ⟨_, _, add_eq_mismatch h⟩⟩
  rw [add_eq_ofTotal hsame, ofTotal_eq_error_iff] at h
  exact nomatch h.1

/-- The product of a total with a 32-bit number fits in 128 bits. -/
theorem product?_total (m : Money) (n : UInt32) :
    product? m.total n.toNat = some (m.total * n.toNat) := by
  obtain ⟨hleast, hgreatest⟩ := m.inRange_total
  unfold least greatest nanosPerUnit at *
  -- The largest product, 2^63 units times 2^32, stays below 2^127 nanos.
  have hn : (n.toNat : Int) ≤ 4294967295 := by
    have := n.toNat_lt
    omega
  have hlow : -9223372036854775808999999999 * (n.toNat : Int) ≤ m.total * n.toNat :=
    Int.mul_le_mul_of_nonneg_right (by omega) (by omega)
  have hhigh : m.total * n.toNat ≤ 9223372036854775807999999999 * (n.toNat : Int) :=
    Int.mul_le_mul_of_nonneg_right (by omega) (by omega)
  unfold product?
  rw [if_pos (by omega)]

/-- An amount is multiplied by multiplying its total. -/
theorem multiply_eq_ofTotal (m : Money) (n : UInt32) :
    m.multiply n.toNat = ofTotal m.currency (m.total * n.toNat) := by
  unfold multiply
  rw [product?_total]

/-- The addition of one currency does not depend on the order. -/
theorem add_comm_of_currency {a b : Money} (h : a.currency = b.currency) : a.add b = b.add a := by
  rw [add_eq_ofTotal h, add_eq_ofTotal h.symm, h, Int.add_comm]

/-- Where the inner sums fit, it does not matter which of them is formed first. -/
theorem add_assoc_of_fits {a b c ab bc : Money} (hab : a.add b = .ok ab) (hbc : b.add c = .ok bc) :
    ab.add c = a.add bc := by
  obtain ⟨habCurrency, habSame, habTotal⟩ := add_eq_ok_iff.mp hab
  obtain ⟨hbcCurrency, hbcSame, hbcTotal⟩ := add_eq_ok_iff.mp hbc
  have hleft : ab.currency = c.currency := by rw [habSame, habCurrency, hbcCurrency]
  have hright : a.currency = bc.currency := by rw [habCurrency, hbcSame]
  rw [add_eq_ofTotal hleft, add_eq_ofTotal hright, habSame, habTotal, hbcTotal, Int.add_assoc]

/-- Two words are accepted exactly when they describe an amount, and make up that amount. -/
theorem ofWords_eq_ok_iff {currency : CurrencyCode} {units : Int64} {nanos : Int32} {m : Money} :
    ofWords currency units nanos = .ok m ↔
      WellFormed units.toInt nanos.toInt ∧ m.currency = currency ∧ m.units = units.toInt ∧
        m.nanos = nanos.toInt := by
  unfold ofWords
  split
  · rename_i h
    rw [Except.ok.injEq]
    constructor
    · rintro rfl
      exact ⟨h, rfl, rfl, rfl⟩
    · rintro ⟨-, hcurrency, hunits, hnanos⟩
      exact eq_of_parts hcurrency.symm hunits.symm hnanos.symm
  · rename_i h
    exact ⟨fun hok ↦ (nomatch hok), fun hok ↦ absurd hok.1 h⟩

/-- The amounts of one currency and the totals in range correspond to each other. -/
theorem bijective_total (currency : CurrencyCode) :
    Function.Bijective fun m : { m : Money // m.currency = currency } ↦
      (⟨m.1.total, m.1.inRange_total⟩ : { total : Int // InRange total }) := by
  constructor
  · intro a b h
    exact Subtype.ext (eq_of_total (a.2.trans b.2.symm) (Subtype.ext_iff.mp h))
  · rintro ⟨total, hrange⟩
    obtain ⟨m, hm⟩ := exists_ofTotal currency hrange
    obtain ⟨hcurrency, htotal⟩ := total_of_ofTotal hm
    exact ⟨⟨m, hcurrency⟩, Subtype.ext htotal⟩

/-- Amounts of a currency correspond to the totals in range; two words make up an amount exactly
when they describe one; sums and products have the sum and the product of the totals, or overflow
when that is out of range, and only amounts of two currencies are not added at all; a product never
leaves 128 bits; nanos are less than a unit and on the side of the units; and sums depend neither on
order nor on grouping where they fit. -/
theorem arithmetic_is_exact :
    (∀ currency, Function.Bijective fun m : { m : Money // m.currency = currency } ↦
      (⟨m.1.total, m.1.inRange_total⟩ : { total : Int // InRange total })) ∧
    (∀ (currency : CurrencyCode) (units : Int64) (nanos : Int32) (m : Money),
      ofWords currency units nanos = .ok m ↔
        WellFormed units.toInt nanos.toInt ∧ m.currency = currency ∧ m.units = units.toInt ∧
          m.nanos = nanos.toInt) ∧
    (∀ a b : Money,
      ((∃ left right, a.add b = .error (.currencyMismatch left right)) ↔
        a.currency ≠ b.currency) ∧
      (a.currency = b.currency → IsExact a.currency (a.total + b.total) (a.add b))) ∧
    (∀ (m : Money) (n : UInt32),
      product? m.total n.toNat = some (m.total * n.toNat) ∧
      IsExact m.currency (m.total * n.toNat) (m.multiply n.toNat)) ∧
    (∀ m : Money, m.nanos.natAbs < 1000000000 ∧ (0 < m.units → 0 ≤ m.nanos) ∧
      (m.units < 0 → m.nanos ≤ 0)) ∧
    (∀ a b : Money, a.currency = b.currency → a.add b = b.add a) ∧
    (∀ a b c ab bc : Money, a.add b = .ok ab → b.add c = .ok bc → ab.add c = a.add bc) := by
  refine ⟨bijective_total, fun _ _ _ _ ↦ ofWords_eq_ok_iff, fun a b ↦ ⟨add_mismatch_iff, ?_⟩,
    fun m n ↦ ⟨product?_total m n, ?_⟩, fun m ↦ ?_, fun _ _ ↦ add_comm_of_currency,
    fun _ _ _ _ _ ↦ add_assoc_of_fits⟩
  · intro h
    rw [add_eq_ofTotal h]
    exact isExact_ofTotal _ _
  · rw [multiply_eq_ofTotal]
    exact isExact_ofTotal _ _
  · have h := m.wellFormed
    unfold WellFormed nanosPerUnit at h
    unfold units nanos
    omega

/-- The least total has the least units and a full row of nanos below them. -/
example : (ofWords .usd Int64.minValue (-999999999)).toOption.map total = some least := by decide

end Storefront.Money
