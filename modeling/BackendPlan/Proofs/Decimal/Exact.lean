import BackendPlan.Decimal
import BackendPlan.Proofs.Decimal.Normal

/-!
# Proofs/Decimal/Exact — a double read back from its own value

The nearest double to a number that is a double is that double: the unit in which the number is
rounded is the unit of its own pattern, so the quotient is whole and rounding leaves it.  Reading
goes through the normal form of a decimal, which depends on the value only, hence

  `x.shortest`   →   `ofDecimal x.negative`   →   `x`

whichever decimal `shortest` has chosen: a candidate was tested before it was taken, and behind the
candidates stands the exact expansion.

* `ofRatio_eq` — **rounding leaves a double as it is.**
* `ofDecimal_shortest` — **the chosen decimal reads back.**
-/

namespace BackendPlan.Binary64

/-! ## The pattern of a double

Significand and scale are what the magnitude word is made of, and the scale is the least one that
gives the significand at most 53 bits. -/

/-- **The absolute value** — `significand` units of `2 ^ scale`. -/
def absValue (x : Binary64) : ℚ := x.significand * 2 ^ x.scale

theorem fractions_eq : fractions = 2 ^ 52 := rfl

theorem significand_lt (x : Binary64) : x.significand < 2 * fractions := by
  have := Nat.mod_lt x.magnitude.val (show 0 < fractions by decide)
  unfold significand
  split <;> omega

theorem le_scale (x : Binary64) : -1074 ≤ x.scale := by
  unfold scale
  split
  · rfl
  · next h =>
    have : 1 ≤ x.magnitude.val / fractions :=
      (Nat.one_le_div_iff (by decide)).2 (Nat.not_lt.1 h)
    omega

theorem scale_le (x : Binary64) : x.scale ≤ 971 := by
  unfold scale
  split
  · decide
  · have : x.magnitude.val / fractions < 2047 :=
      Nat.div_lt_of_lt_mul (by have := x.magnitude.isLt; rw [fractions]; omega)
    omega

/-- Above the least unit, `2 ^ -1074`, the leading bit of the significand is set. -/
theorem fractions_le_significand {x : Binary64} (h : -1074 < x.scale) :
    fractions ≤ x.significand := by
  unfold scale at h
  unfold significand
  split at h
  · exact absurd h (by decide)
  · next hm => simp [hm]

/-- **The word of a double**, put together from its unit and its significand — the leading bit
carries into the exponent. -/
theorem word_eq (x : Binary64) :
    (x.scale + 1074).toNat * fractions + x.significand = x.magnitude.val := by
  have hdiv := Nat.div_add_mod x.magnitude.val fractions
  unfold scale significand
  split
  · simp
  · next h =>
    have hone : 1 ≤ x.magnitude.val / fractions :=
      (Nat.one_le_div_iff (by decide)).2 (Nat.not_lt.1 h)
    obtain ⟨q, hq⟩ := Nat.exists_eq_add_of_le hone
    have hunit : (((x.magnitude.val / fractions : Nat) : Int) - 1075 + 1074).toNat = q := by
      rw [hq]
      omega
    rw [hunit, ← hdiv, hq]
    simp only [Nat.mul_add_mod_self_left, Nat.mod_mod]
    ring

theorem significand_pos {x : Binary64} (hx : x.magnitude.val ≠ 0) : 0 < x.significand := by
  unfold significand
  split
  · exact Nat.pos_of_ne_zero hx
  · exact Nat.add_pos_left (by decide) _

theorem absValue_pos {x : Binary64} (hx : x.magnitude.val ≠ 0) : 0 < x.absValue := by
  have : (0 : ℚ) < x.significand := by exact_mod_cast significand_pos hx
  exact mul_pos this (by positivity)

/-! ## The unit of rounding -/

theorem divPow_den_pos (num : Nat) {den : Nat} (hden : 0 < den) (e : Int) :
    0 < (divPow num den e).2 := by
  cases e with
  | ofNat k => exact Nat.mul_pos hden (Nat.pow_pos (by norm_num))
  | negSucc k => exact hden

theorem divPow_ratio (num den : Nat) (e : Int) :
    ((divPow num den e).1 : ℚ) / (divPow num den e).2 = num / den / 2 ^ e := by
  cases e with
  | ofNat k => simp [divPow, div_div]
  | negSucc k =>
    simp only [divPow, zpow_negSucc, Nat.pow_eq]
    push_cast
    field_simp

/-- `Nat.log2` of numerator and denominator gives the ratio to within a factor of four. -/
theorem ratio_bounds {num den : Nat} (hnum : num ≠ 0) (hden : den ≠ 0) :
    (2 : ℚ) ^ ((num.log2 : Int) - den.log2 - 1) < num / den ∧
      (num / den : ℚ) < 2 ^ ((num.log2 : Int) - den.log2 + 1) := by
  have hn : (2 : ℚ) ^ num.log2 ≤ num := by exact_mod_cast Nat.log2_self_le hnum
  have hn' : (num : ℚ) < 2 ^ (num.log2 + 1) := by exact_mod_cast Nat.lt_log2_self
  have hd : (2 : ℚ) ^ den.log2 ≤ den := by exact_mod_cast Nat.log2_self_le hden
  have hd' : (den : ℚ) < 2 ^ (den.log2 + 1) := by exact_mod_cast Nat.lt_log2_self
  have hpos : (0 : ℚ) < den := by exact_mod_cast Nat.pos_of_ne_zero hden
  constructor
  · rw [lt_div_iff₀ hpos]
    calc (2 : ℚ) ^ ((num.log2 : Int) - den.log2 - 1) * den
        < 2 ^ ((num.log2 : Int) - den.log2 - 1) * 2 ^ (den.log2 + 1) := by gcongr
      _ = 2 ^ num.log2 := by
        rw [← zpow_natCast, ← zpow_natCast, ← zpow_add₀ (by norm_num)]
        congr 1
        push_cast
        ring
      _ ≤ num := hn
  · rw [div_lt_iff₀ hpos]
    calc (num : ℚ) < 2 ^ (num.log2 + 1) := hn'
      _ = 2 ^ ((num.log2 : Int) - den.log2 + 1) * 2 ^ den.log2 := by
        rw [← zpow_natCast, ← zpow_natCast, ← zpow_add₀ (by norm_num)]
        congr 1
        push_cast
        ring
      _ ≤ 2 ^ ((num.log2 : Int) - den.log2 + 1) * den := by gcongr

/-- The unit is the guess from `Nat.log2`, or twice that when the quotient would be too long. -/
theorem unitExponent_eq {num den : Nat} (hden : 0 < den) :
    unitExponent num den =
      if (num / den : ℚ) < 2 ^ (53 + max ((num.log2 : Int) - den.log2 - 53) (-1074)) then
        max ((num.log2 : Int) - den.log2 - 53) (-1074)
      else max ((num.log2 : Int) - den.log2 - 53) (-1074) + 1 := by
  simp only [unitExponent]
  generalize max ((num.log2 : Int) - den.log2 - 53) (-1074) = low
  refine if_congr ?_ rfl rfl
  have hd : (0 : ℚ) < (divPow num den low).2 := by exact_mod_cast divPow_den_pos num hden low
  have hlow : (0 : ℚ) < 2 ^ low := by positivity
  have hpow : (2 : ℚ) ^ (53 + low) = (2 * fractions : Nat) * 2 ^ low := by
    rw [zpow_add₀ (by norm_num), fractions_eq]
    norm_num
  calc (divPow num den low).1 < 2 * fractions * (divPow num den low).2
      ↔ ((divPow num den low).1 : ℚ) < (2 * fractions : Nat) * (divPow num den low).2 := by
        exact_mod_cast Iff.rfl
    _ ↔ (num / den : ℚ) / 2 ^ low < (2 * fractions : Nat) := by
        rw [← div_lt_iff₀ hd, divPow_ratio]
    _ ↔ (num / den : ℚ) < 2 ^ (53 + low) := by rw [div_lt_iff₀ hlow, hpow]

/-- **A double is rounded in its own unit** — its quotient has 53 bits there, or the unit is the
least one. -/
theorem unitExponent_absValue {x : Binary64} {num den : Nat} (hx : x.magnitude.val ≠ 0)
    (hden : den ≠ 0) (h : (num / den : ℚ) = x.absValue) : unitExponent num den = x.scale := by
  have hnum : num ≠ 0 := by
    rintro rfl
    exact (absValue_pos hx).ne' (by rw [← h]; simp)
  obtain ⟨hgt, hlt⟩ := ratio_bounds hnum hden
  rw [unitExponent_eq (Nat.pos_of_ne_zero hden)]
  rw [h] at hgt hlt ⊢
  have hupper : x.absValue < 2 ^ (53 + x.scale) := by
    rw [zpow_add₀ (by norm_num), absValue]
    have : (x.significand : ℚ) < (2 : ℚ) ^ (53 : Int) := by exact_mod_cast x.significand_lt
    gcongr
  have hlower : -1074 < x.scale → (2 : ℚ) ^ (52 + x.scale) ≤ x.absValue := by
    intro hs
    rw [zpow_add₀ (by norm_num), absValue]
    have : (2 : ℚ) ^ (52 : Int) ≤ x.significand := by exact_mod_cast fractions_le_significand hs
    gcongr
  have hle := x.le_scale
  -- the guess `g` is the scale or one less, and at least the least unit
  generalize hg : (num.log2 : Int) - den.log2 - 53 = g at *
  have hg1 : (num.log2 : Int) - den.log2 - 1 = g + 52 := by omega
  have hg2 : (num.log2 : Int) - den.log2 + 1 = g + 54 := by omega
  rw [hg1] at hgt
  rw [hg2] at hlt
  have hgs : g + 52 < 53 + x.scale :=
    (zpow_lt_zpow_iff_right₀ (by norm_num)).1 (hgt.trans hupper)
  have hsg : -1074 < x.scale → 52 + x.scale < g + 54 := fun hs =>
    (zpow_lt_zpow_iff_right₀ (by norm_num)).1 ((hlower hs).trans_lt hlt)
  rcases eq_or_lt_of_le (show max g (-1074) ≤ x.scale by omega) with heq | hlt'
  · rw [heq, if_pos hupper]
  · have hs : -1074 < x.scale := by omega
    have hpred : max g (-1074) = x.scale - 1 := by have := hsg hs; omega
    have hnot : ¬ x.absValue < 2 ^ (53 + (x.scale - 1)) := by
      rw [show 53 + (x.scale - 1) = 52 + x.scale by ring]
      exact not_lt.2 (hlower hs)
    rw [hpred, if_neg hnot, sub_add_cancel]

/-! ## Rounding -/

/-- A whole quotient is not rounded. -/
theorem roundDiv_mul_right (q : Nat) {d : Nat} (hd : 0 < d) : roundDiv (q * d) d = q := by
  simp [roundDiv, Nat.mul_div_cancel q hd, hd]

/-- **Rounding leaves a double as it is** — in its own unit the quotient is the significand, without
a rest. -/
theorem ofRatio_eq {x : Binary64} {num den : Nat} (hx : x.magnitude.val ≠ 0) (hden : den ≠ 0)
    (h : (num / den : ℚ) = x.absValue) : ofRatio x.negative num den = some x := by
  have hd := divPow_den_pos num (Nat.pos_of_ne_zero hden) x.scale
  have hq : (divPow num den x.scale).1 = x.significand * (divPow num den x.scale).2 := by
    have hratio := divPow_ratio num den x.scale
    have hpow : (2 : ℚ) ^ x.scale ≠ 0 := by positivity
    rw [h, absValue, mul_div_cancel_right₀ _ hpow,
      div_eq_iff (by exact_mod_cast hd.ne')] at hratio
    exact_mod_cast hratio
  simp only [ofRatio, unitExponent_absValue hx hden h, hq, roundDiv_mul_right _ hd, word_eq,
    x.magnitude.isLt, dite_true]

/-! ## Decimals -/

/-- Reading a decimal depends on its value only — it goes through `normalize`. -/
theorem ofDecimal_congr {negative : Bool} {d d' : Decimal} (h : d.value = d'.value) :
    ofDecimal negative d = ofDecimal negative d' := by
  simp only [ofDecimal, Decimal.normalize_eq_iff.2 h]

/-- Three bits are less than a decimal digit. -/
theorem two_pow_le_ten_pow {m n : Nat} (h : m ≤ 3 * n) : (2 : ℚ) ^ m ≤ 10 ^ n :=
  calc (2 : ℚ) ^ m ≤ 2 ^ (3 * n) := pow_le_pow_right₀ (by norm_num) h
    _ = (2 ^ 3) ^ n := pow_mul 2 3 n
    _ ≤ 10 ^ n := pow_le_pow_left₀ (by norm_num) (by norm_num) n

theorem absValue_lt (x : Binary64) : x.absValue < 10 ^ (400 : Int) := by
  have hs : (x.significand : ℚ) < 2 ^ (53 : Int) := by exact_mod_cast x.significand_lt
  calc x.absValue < 2 ^ (53 : Int) * 2 ^ x.scale := by
        rw [absValue]
        gcongr
    _ = 2 ^ (53 + x.scale) := (zpow_add₀ (by norm_num) _ _).symm
    _ ≤ 2 ^ (1024 : Int) := zpow_le_zpow_right₀ (by norm_num) (by have := x.scale_le; omega)
    _ ≤ 10 ^ (400 : Int) := by exact_mod_cast two_pow_le_ten_pow (by norm_num)

theorem pow_le_absValue {x : Binary64} (hx : x.magnitude.val ≠ 0) :
    (10 : ℚ) ^ (-399 : Int) ≤ x.absValue := by
  have hs : (1 : ℚ) ≤ x.significand := by exact_mod_cast significand_pos hx
  have hpow : (2 : ℚ) ^ 1074 ≤ 10 ^ 399 := two_pow_le_ten_pow (by norm_num)
  calc (10 : ℚ) ^ (-399 : Int) ≤ 2 ^ (-1074 : Int) := by
        rw [zpow_neg, zpow_neg]
        exact inv_anti₀ (by positivity) (by exact_mod_cast hpow)
    _ ≤ 2 ^ x.scale := zpow_le_zpow_right₀ (by norm_num) x.le_scale
    _ ≤ x.absValue := le_mul_of_one_le_left (by positivity) hs

/-- **A decimal with the value of a double reads as that double** — its exponent is within the
bounds of the reader. -/
theorem ofDecimal_eq {x : Binary64} {d : Decimal} (hx : x.magnitude.val ≠ 0)
    (h : d.value = x.absValue) : ofDecimal x.negative d = some x := by
  have hv : d.normalize.value = x.absValue := (Decimal.value_normalize d).trans h
  have h0 : d.normalize.digits ≠ 0 := fun hz =>
    (absValue_pos hx).ne' (hv ▸ Decimal.value_eq_zero_iff.2 hz)
  have hhigh : ¬ 400 ≤ d.normalize.lead := by
    have := (Decimal.pow_lead_le_value h0).trans_lt (hv ▸ x.absValue_lt)
    exact not_le.2 ((zpow_lt_zpow_iff_right₀ (by norm_num)).1 this)
  have hlow : ¬ d.normalize.lead < -400 := by
    have := (hv ▸ pow_le_absValue hx).trans_lt (Decimal.value_lt_pow_lead d.normalize)
    have := (zpow_lt_zpow_iff_right₀ (by norm_num)).1 this
    omega
  simp only [ofDecimal, h0, hhigh, hlow, if_false]
  generalize d.normalize = n at *
  obtain ⟨digits, exponent⟩ := n
  cases exponent with
  | ofNat k =>
    refine ofRatio_eq hx one_ne_zero ?_
    rw [← hv]
    simp [Decimal.value]
  | negSucc k =>
    refine ofRatio_eq hx (Nat.pow_pos (by norm_num)).ne' ?_
    rw [← hv]
    simp [Decimal.value, zpow_negSucc, div_eq_mul_inv]

theorem value_exactDecimal (x : Binary64) : x.exactDecimal.value = x.absValue := by
  rw [absValue, exactDecimal]
  cases x.scale with
  | ofNat k => simp [Decimal.value]
  | negSucc k =>
    have : (10 : ℚ) ^ (k + 1) = 5 ^ (k + 1) * 2 ^ (k + 1) := by rw [← mul_pow]; norm_num
    simp only [Decimal.value, zpow_negSucc, Nat.pow_eq, this]
    push_cast
    field_simp

/-- **The chosen decimal reads back**: by the test that chose it, or as the exact value. -/
theorem ofDecimal_shortest (x : Binary64) : ofDecimal x.negative x.shortest = some x := by
  by_cases hx : x.magnitude.val = 0
  · obtain ⟨negative, magnitude⟩ := x
    obtain rfl : magnitude = ⟨0, by decide⟩ := Fin.ext hx
    rfl
  · rw [shortest, if_neg hx, ofDecimal_congr (Decimal.value_normalize _)]
    cases hc : x.candidates.find? x.readsBack with
    | some d => exact readsBack_of_find?_candidates hc
    | none => exact ofDecimal_eq hx x.value_exactDecimal

end BackendPlan.Binary64
