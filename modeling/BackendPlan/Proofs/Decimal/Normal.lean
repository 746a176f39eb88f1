import BackendPlan.Decimal
import Mathlib.Algebra.Order.Field.Power
import Mathlib.Algebra.Order.Field.Rat
import Mathlib.Tactic.FieldSimp
import Mathlib.Tactic.IntervalCases
import Mathlib.Tactic.Linarith
import Mathlib.Tactic.Positivity
import Mathlib.Tactic.Ring

/-!
# Proofs/Decimal/Normal — the normal form as a complete invariant

A decimal denotes a rational number, its `value`.  Dropping zeros keeps the value, and a number
whose last digit is not zero can be written with one exponent only, so

  `d ↦ normalize d`   is   `d ↦ value d`,   up to renaming the results.

Everything that reads a decimal through its normal form therefore depends on the value alone.

* `normalize_eq_iff` — **equal normal forms are equal values.**
* `pow_lead_le_value`, `value_lt_pow_lead` — the leading digit bounds the value on both sides.
-/

namespace BackendPlan.Decimal

/-- **The number that a decimal denotes**, as a rational: `digits * 10 ^ exponent`. -/
def value (d : Decimal) : ℚ := d.digits * 10 ^ d.exponent

theorem value_eq_zero_iff {d : Decimal} : d.value = 0 ↔ d.digits = 0 := by
  have : (10 : ℚ) ^ d.exponent ≠ 0 := by positivity
  simp [value, this]

/-- Zeros at the end of the digits can be traded for the exponent. -/
theorem value_mul_pow (n : Nat) (e : Int) (j : Nat) : value ⟨n * 10 ^ j, e - j⟩ = value ⟨n, e⟩ := by
  have : (10 : ℚ) ^ (e - j) = 10 ^ e / 10 ^ j := by rw [zpow_sub₀ (by norm_num), zpow_natCast]
  simp only [value, this]
  push_cast
  field_simp

/-! ## Digits -/

theorem lt_pow_digitCount (n : Nat) : n < 10 ^ digitCount n := by
  have hpos : 0 < digitCount n := List.length_pos_of_ne_nil Nat.toDigits_ne_nil
  exact (Nat.length_toDigits_le_iff (by norm_num) hpos).1 le_rfl

theorem pow_digitCount_le {n : Nat} (hn : n ≠ 0) : 10 ^ (digitCount n - 1) ≤ n := by
  rcases Nat.eq_zero_or_pos (digitCount n - 1) with h | h
  · simpa [h] using Nat.one_le_iff_ne_zero.2 hn
  · refine Nat.not_lt.1 fun hlt => ?_
    have := (Nat.length_toDigits_le_iff (by norm_num) h).2 hlt
    simp only [digitCount] at this h
    omega

/-- The first of `Nat.toDigits` is a `0` only when the number is zero. -/
theorem head_toDigits_ne_zero (n : Nat) (hn : n ≠ 0) :
    ∃ c cs, Nat.toDigits 10 n = c :: cs ∧ c ≠ '0' := by
  induction n using Nat.strongRecOn with
  | ind n ih =>
    by_cases hlt : n < 10
    · refine ⟨Nat.digitChar n, [], Nat.toDigits_of_lt_base hlt, ?_⟩
      interval_cases n <;> first | contradiction | decide
    · obtain ⟨c, cs, hcs, hc⟩ := ih (n / 10) (by omega) (by omega)
      exact ⟨c, cs ++ [Nat.digitChar (n % 10)],
        by rw [Nat.toDigits_of_base_le (by norm_num) (by omega), hcs, List.cons_append], hc⟩

/-! ## The normal form -/

/-- **The normal form, as a property**: zero has exponent `0`, any other number ends in a digit that
is not zero. -/
def IsNormal (d : Decimal) : Prop := if d.digits = 0 then d.exponent = 0 else d.digits % 10 ≠ 0

theorem value_dropZeros (count : Nat) (d : Decimal) : (dropZeros count d).value = d.value := by
  induction count generalizing d with
  | zero => rfl
  | succ count ih =>
    rw [dropZeros]
    split
    · next h =>
      have hd : d = ⟨d.digits / 10 * 10 ^ 1, d.exponent + 1 - (1 : Nat)⟩ := by
        obtain ⟨n, e⟩ := d
        simp only at h
        simp only [mk.injEq]
        omega
      rw [ih, ← value_mul_pow (d.digits / 10) (d.exponent + 1) 1, ← hd]
    · rfl

/-- `dropZeros` leaves no zero at the end, if as many may be dropped as there are digits. -/
theorem isNormal_dropZeros {count : Nat} {d : Decimal} (hd : d.digits ≠ 0)
    (hlt : d.digits < 10 ^ count) : (dropZeros count d).IsNormal := by
  induction count generalizing d with
  | zero => exact absurd (Nat.lt_one_iff.1 hlt) hd
  | succ count ih =>
    rw [dropZeros]
    split
    · next h =>
      rw [pow_succ] at hlt
      exact ih (by simp only; omega) (by simp only; omega)
    · next h => simpa [IsNormal, hd] using h

theorem value_normalize (d : Decimal) : d.normalize.value = d.value := by
  rw [normalize]
  split
  · next h => simp [value, h]
  · exact value_dropZeros _ d

theorem isNormal_normalize (d : Decimal) : d.normalize.IsNormal := by
  rw [normalize]
  split
  · simp [IsNormal]
  · next h => exact isNormal_dropZeros h (lt_pow_digitCount d.digits)

/-- The exponent of a normal form is the largest with which the number can be written. -/
theorem IsNormal.exponent_le {d d' : Decimal} (hd : d.IsNormal) (h0 : d.digits ≠ 0)
    (hv : d.value = d'.value) : d'.exponent ≤ d.exponent := by
  refine Int.not_lt.1 fun hlt => ?_
  -- otherwise the digits of `d` are those of `d'` with zeros at the end
  obtain ⟨j, hj⟩ := Int.le.dest hlt.le
  have hj' : d' = ⟨d'.digits, d.exponent + j⟩ := by rw [hj]
  rw [hj', ← value_mul_pow d'.digits (d.exponent + j) j, Int.add_sub_cancel] at hv
  have hpos : (10 : ℚ) ^ d.exponent ≠ 0 := by positivity
  have hdig : d.digits = d'.digits * 10 ^ j := by
    have := mul_right_cancel₀ hpos hv
    exact_mod_cast this
  obtain ⟨k, rfl⟩ : ∃ k, j = k + 1 := ⟨j - 1, by omega⟩
  simp only [IsNormal, h0, if_false] at hd
  exact hd (by rw [hdig, pow_succ, ← mul_assoc, Nat.mul_mod_left])

/-- **A number has one normal form** — the exponents bound each other, by `IsNormal.exponent_le`. -/
theorem IsNormal.eq_of_value {d d' : Decimal} (hd : d.IsNormal) (hd' : d'.IsNormal)
    (hv : d.value = d'.value) : d = d' := by
  obtain ⟨n, e⟩ := d
  obtain ⟨n', e'⟩ := d'
  have hzero : n = 0 ↔ n' = 0 := by
    rw [← value_eq_zero_iff (d := ⟨n, e⟩), hv, value_eq_zero_iff]
  by_cases h0 : n = 0
  · have h0' := hzero.1 h0
    simp only [IsNormal, h0, h0', if_true] at hd hd'
    simp [h0, h0', hd, hd']
  · have he : e = e' :=
      le_antisymm (hd'.exponent_le (h0 ∘ hzero.2) hv.symm) (hd.exponent_le h0 hv)
    subst he
    have hpos : (10 : ℚ) ^ e ≠ 0 := by positivity
    have : n = n' := by exact_mod_cast mul_right_cancel₀ hpos hv
    rw [this]

/-- **Equal normal forms are equal values** — so `normalize` is a complete invariant. -/
theorem normalize_eq_iff {d d' : Decimal} : d.normalize = d'.normalize ↔ d.value = d'.value := by
  constructor
  · intro h
    rw [← value_normalize d, h, value_normalize]
  · intro h
    refine (isNormal_normalize d).eq_of_value (isNormal_normalize d') ?_
    rw [value_normalize, value_normalize, h]

/-! ## The leading digit -/

theorem pow_lead_le_value {d : Decimal} (hd : d.digits ≠ 0) : (10 : ℚ) ^ d.lead ≤ d.value := by
  have hpos : 0 < digitCount d.digits := List.length_pos_of_ne_nil Nat.toDigits_ne_nil
  have hlead : d.lead = ((digitCount d.digits - 1 : Nat) : Int) + d.exponent := by
    simp only [lead]
    omega
  rw [hlead, zpow_add₀ (by norm_num), zpow_natCast, value]
  gcongr
  exact_mod_cast pow_digitCount_le hd

theorem value_lt_pow_lead (d : Decimal) : d.value < (10 : ℚ) ^ (d.lead + 1) := by
  have hlead : d.lead + 1 = (digitCount d.digits : Int) + d.exponent := by
    simp only [lead]
    omega
  rw [hlead, zpow_add₀ (by norm_num), zpow_natCast, value]
  gcongr
  exact_mod_cast lt_pow_digitCount d.digits

end BackendPlan.Decimal
