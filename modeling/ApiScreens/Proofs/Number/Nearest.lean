import ApiScreens.Number.Double
import Mathlib.Algebra.Order.Field.Power
import Mathlib.Algebra.Order.Field.Rat
import Mathlib.Data.Nat.Log
import Mathlib.Tactic.FieldSimp
import Mathlib.Tactic.Linarith
import Mathlib.Tactic.Positivity
import Mathlib.Tactic.Ring

/-!
# Nearest doubles

The double nearest to a fraction depends on the value of the fraction alone, and the double nearest
to the value of a double is that double.
-/

namespace ApiScreens.Double

theorem roundQuotient_mul_left {c : Nat} (hc : 0 < c) (num den : Nat) :
    roundQuotient (c * num) (c * den) = roundQuotient num den := by
  have hbelow : 2 * (c * (num % den)) < c * den ↔ 2 * (num % den) < den := by
    rw [Nat.mul_left_comm]
    exact Nat.mul_lt_mul_left hc
  have habove : c * den < 2 * (c * (num % den)) ↔ den < 2 * (num % den) := by
    rw [Nat.mul_left_comm]
    exact Nat.mul_lt_mul_left hc
  simp only [roundQuotient, Nat.mul_div_mul_left _ _ hc, Nat.mul_mod_mul_left, hbelow, habove]

/-- A whole quotient is not rounded. -/
theorem roundQuotient_mul_self {den : Nat} (h : 0 < den) (q : Nat) :
    roundQuotient (q * den) den = q := by
  simp [roundQuotient, Nat.mul_div_cancel _ h, h]

theorem shiftLeft_lt_shiftLeft_iff (num den : Nat) (k : Int) :
    num <<< (-k).toNat < den <<< k.toNat ↔ (num : ℚ) < den * 2 ^ k := by
  obtain ⟨n, rfl | rfl⟩ := k.eq_nat_or_neg
  · have hneg : (-(n : Int)).toNat = 0 := by omega
    rw [hneg, Int.toNat_natCast, Nat.shiftLeft_zero, Nat.shiftLeft_eq, zpow_natCast]
    exact_mod_cast Iff.rfl
  · have hneg : (-(n : Int)).toNat = 0 := by omega
    rw [hneg, neg_neg, Int.toNat_natCast, Nat.shiftLeft_zero, Nat.shiftLeft_eq, zpow_neg,
      zpow_natCast, ← div_eq_mul_inv, lt_div_iff₀ (by positivity)]
    exact_mod_cast Iff.rfl

theorem two_zpow_log2_le {n : Nat} (h : 0 < n) : (2 : ℚ) ^ (n.log2 : Int) ≤ n := by
  rw [zpow_natCast]
  exact_mod_cast Nat.log2_self_le (Nat.pos_iff_ne_zero.mp h)

theorem lt_two_zpow_log2 (n : Nat) : (n : ℚ) < 2 ^ ((n.log2 : Int) + 1) := by
  have h : n < 2 ^ (n.log2 + 1) := Nat.lt_log2_self
  exact_mod_cast h

/-- The logarithm encloses the fraction between neighbouring powers of two. -/
theorem log2Ratio_spec {num den : Nat} (hn : 0 < num) (hd : 0 < den) :
    (den : ℚ) * 2 ^ log2Ratio num den ≤ num ∧ (num : ℚ) < den * 2 ^ (log2Ratio num den + 1) := by
  have hden : (0 : ℚ) < den := by exact_mod_cast hd
  have hlow : (den : ℚ) * 2 ^ ((num.log2 : Int) - den.log2 - 1) ≤ num := by
    calc
      (den : ℚ) * 2 ^ ((num.log2 : Int) - den.log2 - 1) ≤
          2 ^ ((den.log2 : Int) + 1) * 2 ^ ((num.log2 : Int) - den.log2 - 1) := by
        gcongr
        exact (lt_two_zpow_log2 den).le
      _ = 2 ^ (num.log2 : Int) := by
        rw [← zpow_add₀ two_ne_zero]
        congr 1
        omega
      _ ≤ num := two_zpow_log2_le hn
  have hhigh : (num : ℚ) < den * 2 ^ ((num.log2 : Int) - den.log2 + 1) := by
    calc
      (num : ℚ) < 2 ^ ((num.log2 : Int) + 1) := lt_two_zpow_log2 num
      _ = 2 ^ (den.log2 : Int) * 2 ^ ((num.log2 : Int) - den.log2 + 1) := by
        rw [← zpow_add₀ two_ne_zero]
        congr 1
        omega
      _ ≤ den * 2 ^ ((num.log2 : Int) - den.log2 + 1) := by
        gcongr
        exact two_zpow_log2_le hd
  simp only [log2Ratio]
  split
  · rename_i h
    rw [shiftLeft_lt_shiftLeft_iff] at h
    exact ⟨hlow, by rwa [sub_add_cancel]⟩
  · rename_i h
    rw [shiftLeft_lt_shiftLeft_iff, not_lt] at h
    exact ⟨h, hhigh⟩

/-- The powers of two that enclose a fraction determine its logarithm. -/
theorem log2Ratio_eq {num den : Nat} {k : Int} (hn : 0 < num) (hd : 0 < den)
    (hlow : (den : ℚ) * 2 ^ k ≤ num) (hhigh : (num : ℚ) < den * 2 ^ (k + 1)) :
    log2Ratio num den = k := by
  have hden : (0 : ℚ) < den := by exact_mod_cast hd
  obtain ⟨hlow', hhigh'⟩ := log2Ratio_spec hn hd
  have h₁ : (2 : ℚ) ^ k < 2 ^ (log2Ratio num den + 1) :=
    lt_of_mul_lt_mul_left (hlow.trans_lt hhigh') hden.le
  have h₂ : (2 : ℚ) ^ log2Ratio num den < 2 ^ (k + 1) :=
    lt_of_mul_lt_mul_left (hlow'.trans_lt hhigh) hden.le
  rw [zpow_lt_zpow_iff_right₀ one_lt_two] at h₁ h₂
  omega

theorem log2Ratio_mul_left {c num den : Nat} (hc : 0 < c) (hn : 0 < num) (hd : 0 < den) :
    log2Ratio (c * num) (c * den) = log2Ratio num den := by
  obtain ⟨hlow, hhigh⟩ := log2Ratio_spec hn hd
  have hcq : (0 : ℚ) < c := by exact_mod_cast hc
  apply log2Ratio_eq (Nat.mul_pos hc hn) (Nat.mul_pos hc hd)
  · rw [Nat.cast_mul, Nat.cast_mul, mul_assoc]
    exact mul_le_mul_of_nonneg_left hlow hcq.le
  · rw [Nat.cast_mul, Nat.cast_mul, mul_assoc]
    exact mul_lt_mul_of_pos_left hhigh hcq

theorem nearestMagnitude_mul_left {c num den : Nat} (hc : 0 < c) (hd : 0 < den) :
    nearestMagnitude (c * num) (c * den) = nearestMagnitude num den := by
  rcases Nat.eq_zero_or_pos num with rfl | hn
  · simp [nearestMagnitude]
  · have hne : num ≠ 0 := Nat.pos_iff_ne_zero.mp hn
    have hcne : c * num ≠ 0 := Nat.pos_iff_ne_zero.mp (Nat.mul_pos hc hn)
    simp only [nearestMagnitude, if_neg hne, if_neg hcne, log2Ratio_mul_left hc hn hd,
      Nat.shiftLeft_eq, Nat.mul_assoc, roundQuotient_mul_left hc]

/-- Equal fractions have the same nearest magnitude. -/
theorem nearestMagnitude_congr {num den num' den' : Nat} (hd : 0 < den) (hd' : 0 < den')
    (h : num * den' = num' * den) : nearestMagnitude num den = nearestMagnitude num' den' := by
  calc
    nearestMagnitude num den = nearestMagnitude (den' * num) (den' * den) :=
      (nearestMagnitude_mul_left hd' hd).symm
    _ = nearestMagnitude (den * num') (den * den') := by
      rw [Nat.mul_comm den' num, h, Nat.mul_comm num' den, Nat.mul_comm den' den]
    _ = nearestMagnitude num' den' := nearestMagnitude_mul_left hd hd'

section Value

variable {d : Double}

theorem significand_pos (h : d.magnitude ≠ 0) : 0 < d.significand := by
  unfold significand fractions
  split <;> omega

theorem ratio_pos (h : d.magnitude ≠ 0) : 0 < d.ratio.1 ∧ 0 < d.ratio.2 := by
  simp only [ratio, Nat.shiftLeft_eq, Nat.one_mul]
  exact ⟨Nat.mul_pos (significand_pos h) (Nat.two_pow_pos _), Nat.two_pow_pos _⟩

/-- The absolute value of a finite double. -/
def value (d : Double) : ℚ := d.significand * 2 ^ d.scale

/-- The fraction of a double has its value. -/
theorem ratio_value (d : Double) : (d.ratio.1 : ℚ) = d.ratio.2 * d.value := by
  obtain ⟨n, hn | hn⟩ := d.scale.eq_nat_or_neg
  · have hneg : (-(n : Int)).toNat = 0 := by omega
    simp only [ratio, value, hn, hneg, Nat.shiftLeft_eq, Int.toNat_natCast, zpow_natCast]
    push_cast
    ring
  · have hneg : (-(n : Int)).toNat = 0 := by omega
    simp only [ratio, value, hn, hneg, neg_neg, Nat.shiftLeft_eq, Int.toNat_natCast, zpow_neg,
      zpow_natCast]
    push_cast
    field_simp

/-- A significand has 53 bits, and fewer only where the exponent ends. -/
theorem significand_bounds (d : Double) :
    d.significand < 2 ^ 53 ∧ (2 ^ 52 ≤ d.significand ∨ d.scale = -1074 ∧ d.significand < 2 ^ 52) := by
  unfold significand scale fractions
  split <;> omega

/-- The exponent that rounding finds for the fraction of a double is that of the double. -/
theorem max_log2Ratio_ratio (h : d.magnitude ≠ 0) :
    max 1 (log2Ratio d.ratio.1 d.ratio.2 + 1023) = d.scale + 1075 := by
  obtain ⟨hn, hd⟩ := ratio_pos h
  have hden : (0 : ℚ) < d.ratio.2 := by exact_mod_cast hd
  obtain ⟨hlt, hle | ⟨hscale, hsub⟩⟩ := significand_bounds d
  · -- With all 53 bits the logarithm gives the exponent.
    have hlog : log2Ratio d.ratio.1 d.ratio.2 = 52 + d.scale := by
      apply log2Ratio_eq hn hd
      · rw [ratio_value, value, zpow_add₀ two_ne_zero]
        gcongr
        exact_mod_cast hle
      · rw [ratio_value, value, add_right_comm, zpow_add₀ two_ne_zero]
        gcongr
        exact_mod_cast hlt
    have hscale : -1074 ≤ d.scale := by
      unfold scale
      omega
    omega
  · -- With fewer bits the exponent is the least one.
    obtain ⟨hlow, -⟩ := log2Ratio_spec hn hd
    have hvalue : d.value < 2 ^ (-1022 : Int) := by
      have hsplit : (2 : ℚ) ^ (-1022 : Int) = 2 ^ (52 : Int) * 2 ^ d.scale := by
        rw [hscale, ← zpow_add₀ two_ne_zero]
        norm_num
      rw [value, hsplit]
      gcongr
      exact_mod_cast hsub
    have hpow : (2 : ℚ) ^ log2Ratio d.ratio.1 d.ratio.2 < 2 ^ (-1022 : Int) := by
      rw [ratio_value] at hlow
      exact (le_of_mul_le_mul_left hlow hden).trans_lt hvalue
    rw [zpow_lt_zpow_iff_right₀ one_lt_two] at hpow
    omega

/-- A double is nearest to its own value. -/
theorem nearestMagnitude_ratio (h : d.magnitude ≠ 0) :
    nearestMagnitude d.ratio.1 d.ratio.2 = d.magnitude := by
  have hunit : (1075 : Int) - (d.scale + 1075) = -d.scale := by omega
  have hexact : d.ratio.1 <<< (-d.scale).toNat =
      d.significand * d.ratio.2 <<< d.scale.toNat := by
    simp only [ratio, Nat.shiftLeft_eq]
    ring
  have hpos : 0 < d.ratio.2 <<< d.scale.toNat := by
    rw [Nat.shiftLeft_eq]
    exact Nat.mul_pos (ratio_pos h).2 (Nat.two_pow_pos _)
  have hne : d.ratio.1 ≠ 0 := Nat.pos_iff_ne_zero.mp (ratio_pos h).1
  simp only [nearestMagnitude, if_neg hne, max_log2Ratio_ratio h, hunit, neg_neg, hexact,
    roundQuotient_mul_self hpos]
  unfold significand scale fractions
  split <;> omega

theorem value_pos (h : d.magnitude ≠ 0) : 0 < d.value := by
  have := significand_pos h
  unfold value
  positivity

theorem le_value (h : d.magnitude ≠ 0) : (2 : ℚ) ^ (-1074 : Int) ≤ d.value := by
  have hscale : -1074 ≤ d.scale := by
    unfold scale
    omega
  have hone : (1 : ℚ) ≤ d.significand := by exact_mod_cast significand_pos h
  calc
    (2 : ℚ) ^ (-1074 : Int) ≤ 2 ^ d.scale := zpow_le_zpow_right₀ one_le_two hscale
    _ ≤ d.significand * 2 ^ d.scale := le_mul_of_one_le_left (by positivity) hone

theorem value_lt (h : d.isFinite = true) : d.value < (2 : ℚ) ^ (1024 : Int) := by
  have hscale : d.scale ≤ 971 := by
    have hlt : d.magnitude < infinity := of_decide_eq_true h
    unfold infinity fractions at hlt
    unfold scale fractions
    omega
  have hsignificand : (d.significand : ℚ) < 2 ^ (53 : Int) := by
    exact_mod_cast (significand_bounds d).1
  calc
    d.value < 2 ^ (53 : Int) * 2 ^ d.scale := by
      unfold value
      gcongr
    _ = 2 ^ (53 + d.scale) := (zpow_add₀ two_ne_zero _ _).symm
    _ ≤ 2 ^ (1024 : Int) := zpow_le_zpow_right₀ one_le_two (by omega)

end Value

end ApiScreens.Double
