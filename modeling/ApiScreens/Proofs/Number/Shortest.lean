import ApiScreens.Number.Decimal
import ApiScreens.Proofs.Number.Nearest
import Mathlib.Tactic.NormNum

/-!
# Shortest decimal numbers

The double that a decimal number reads as depends on its value alone. The decimal number that is
chosen to write a double reads as that double, so it determines the double up to its sign.
-/

namespace ApiScreens

namespace Decimal

/-- The value of a decimal number. -/
def value (x : Decimal) : ℚ := x.digits * 10 ^ x.exponent

theorem value_pos_iff {x : Decimal} : 0 < x.value ↔ x.digits ≠ 0 := by
  have hpow : (0 : ℚ) < 10 ^ x.exponent := by positivity
  rw [value, mul_pos_iff_of_pos_right hpow, Nat.cast_pos, Nat.pos_iff_ne_zero]

/-- Dropping trailing zeros keeps the value. -/
theorem strip_value (n : Nat) (x : Decimal) : (strip n x).value = x.value := by
  induction n generalizing x with
  | zero => rfl
  | succ n ih =>
      rw [strip]
      split
      · rename_i h
        have hdigits : x.digits = x.digits / 10 * 10 := by omega
        rw [ih, value, value, hdigits, zpow_add_one₀ (by norm_num)]
        push_cast
        rw [Nat.mul_div_cancel _ (by norm_num)]
        ring
      · rfl

/-- The exponent of the power of ten that bounds a decimal number above. -/
def ceiling (x : Decimal) : Int := (Nat.toDigits 10 x.digits).length + x.exponent

theorem value_lt_ceiling (x : Decimal) : x.value < 10 ^ x.ceiling := by
  have hlt : x.digits < 10 ^ (Nat.toDigits 10 x.digits).length :=
    (Nat.length_toDigits_le_iff (by norm_num) Nat.length_toDigits_pos).mp le_rfl
  rw [value, ceiling, zpow_add₀ (by norm_num), zpow_natCast]
  gcongr
  exact_mod_cast hlt

theorem ceiling_le_value {x : Decimal} (h : x.digits ≠ 0) : 10 ^ (x.ceiling - 1) ≤ x.value := by
  have hle : 10 ^ ((Nat.toDigits 10 x.digits).length - 1) ≤ x.digits := by
    rcases Nat.eq_zero_or_pos ((Nat.toDigits 10 x.digits).length - 1) with hzero | hpos
    · rw [hzero]
      exact Nat.pos_of_ne_zero h
    · by_contra hlt
      have := (Nat.length_toDigits_le_iff (by norm_num) hpos).mpr (Nat.lt_of_not_le hlt)
      omega
  have hexp : x.ceiling - 1 = ((Nat.toDigits 10 x.digits).length - 1 : Nat) + x.exponent := by
    have := @Nat.length_toDigits_pos 10 x.digits
    unfold ceiling
    omega
  rw [value, hexp, zpow_add₀ (by norm_num), zpow_natCast]
  gcongr
  exact_mod_cast hle

theorem ceiling_congr {x y : Decimal} (hx : x.digits ≠ 0) (h : x.value = y.value) :
    x.ceiling = y.ceiling := by
  have hy : y.digits ≠ 0 := value_pos_iff.mp (h ▸ value_pos_iff.mpr hx)
  have h₁ : (10 : ℚ) ^ (x.ceiling - 1) < 10 ^ y.ceiling :=
    (ceiling_le_value hx).trans_lt (h ▸ value_lt_ceiling y)
  have h₂ : (10 : ℚ) ^ (y.ceiling - 1) < 10 ^ x.ceiling :=
    (ceiling_le_value hy).trans_lt (h ▸ value_lt_ceiling x)
  rw [zpow_lt_zpow_iff_right₀ (by norm_num)] at h₁ h₂
  omega

/-- The fraction that stands for a decimal number has its value. -/
theorem fraction_value (x : Decimal) :
    ((x.digits * Nat.pow 10 x.exponent.toNat : Nat) : ℚ) =
      (Nat.pow 10 (-x.exponent).toNat : Nat) * x.value := by
  obtain ⟨n, hn | hn⟩ := x.exponent.eq_nat_or_neg
  · have hneg : (-(n : Int)).toNat = 0 := by omega
    simp only [value, hn, hneg, Int.toNat_natCast, zpow_natCast, Nat.pow_eq]
    push_cast
    ring
  · have hneg : (-(n : Int)).toNat = 0 := by omega
    simp only [value, hn, hneg, neg_neg, Int.toNat_natCast, zpow_neg, zpow_natCast, Nat.pow_eq]
    push_cast
    field_simp

theorem pow_ten_pos (n : Nat) : 0 < Nat.pow 10 n := Nat.pow_pos (by norm_num)

theorem nearestMagnitude_fraction_congr {x : Decimal} {num den : Nat} (hden : 0 < den)
    (h : (num : ℚ) = den * x.value) :
    Double.nearestMagnitude (x.digits * Nat.pow 10 x.exponent.toNat)
      (Nat.pow 10 (-x.exponent).toNat) = Double.nearestMagnitude num den := by
  apply Double.nearestMagnitude_congr (pow_ten_pos _) hden
  have hcast : ((x.digits * Nat.pow 10 x.exponent.toNat * den : Nat) : ℚ) =
      (num * Nat.pow 10 (-x.exponent).toNat : Nat) := by
    rw [Nat.cast_mul, fraction_value, Nat.cast_mul num, h]
    ring
  exact_mod_cast hcast

/-- Decimal numbers of one value read as one double. -/
theorem ofDecimal_congr (negative : Bool) {x y : Decimal} (h : x.value = y.value) :
    Double.ofDecimal negative x.digits x.exponent =
      Double.ofDecimal negative y.digits y.exponent := by
  by_cases hx : x.digits = 0
  · have hy : y.digits = 0 := by
      by_contra hy
      exact value_pos_iff.mp (h ▸ value_pos_iff.mpr hy) hx
    simp only [Double.ofDecimal, hx, hy, if_true]
  · have hy : y.digits ≠ 0 := value_pos_iff.mp (h ▸ value_pos_iff.mpr hx)
    have hceiling := ceiling_congr hx h
    have hnearest := nearestMagnitude_fraction_congr (x := x) (pow_ten_pos _)
      (h ▸ fraction_value y)
    simp only [ceiling] at hceiling
    simp only [Double.ofDecimal, if_neg hx, if_neg hy, hceiling, Double.ofRatio, hnearest]

theorem two_pow_lt_ten_pow : (2 : ℚ) ^ (1024 : Int) < 10 ^ (309 : Int) := by
  have h : 2 ^ 1024 < 10 ^ 309 := by decide +kernel
  exact_mod_cast h

theorem ten_zpow_lt_two_zpow : (10 : ℚ) ^ (-324 : Int) < 2 ^ (-1074 : Int) := by
  have h : 2 ^ 1074 < 10 ^ 324 := by decide +kernel
  have hcast : (2 : ℚ) ^ (1074 : Int) < 10 ^ (324 : Int) := by exact_mod_cast h
  rw [zpow_neg, zpow_neg]
  exact inv_strictAnti₀ (by positivity) hcast

/-- A decimal number with the value of a double reads as the double. -/
theorem ofDecimal_eq {d : Double} (hfinite : d.isFinite = true) (hd : d.magnitude ≠ 0)
    {x : Decimal} (h : x.value = d.value) :
    Double.ofDecimal d.negative x.digits x.exponent = d := by
  have hx : x.digits ≠ 0 := value_pos_iff.mp (h ▸ Double.value_pos hd)
  have hhigh : ¬ 310 < x.ceiling := by
    have hlt : (10 : ℚ) ^ (x.ceiling - 1) < 10 ^ (309 : Int) := by
      calc
        (10 : ℚ) ^ (x.ceiling - 1) ≤ d.value := h ▸ ceiling_le_value hx
        _ < 2 ^ (1024 : Int) := Double.value_lt hfinite
        _ < 10 ^ (309 : Int) := two_pow_lt_ten_pow
    rw [zpow_lt_zpow_iff_right₀ (by norm_num)] at hlt
    omega
  have hlow : ¬ x.ceiling < -324 := by
    have hlt : (10 : ℚ) ^ (-324 : Int) < 10 ^ x.ceiling := by
      calc
        (10 : ℚ) ^ (-324 : Int) < 2 ^ (-1074 : Int) := ten_zpow_lt_two_zpow
        _ ≤ d.value := Double.le_value hd
        _ < 10 ^ x.ceiling := h ▸ value_lt_ceiling x
    rw [zpow_lt_zpow_iff_right₀ (by norm_num)] at hlt
    omega
  have hnearest := nearestMagnitude_fraction_congr (x := x) (Double.ratio_pos hd).2
    (h ▸ Double.ratio_value d)
  have hbound : d.magnitude < Double.infinity := of_decide_eq_true hfinite
  obtain ⟨negative, magnitude, hlt⟩ := d
  simp only [ceiling] at hhigh hlow
  simp only [Double.ofDecimal, if_neg hx, if_neg hhigh, if_neg hlow, Double.ofRatio, hnearest,
    Double.nearestMagnitude_ratio hd, Nat.min_eq_right (Nat.le_of_lt hbound)]

/-- The last candidate is exact. -/
theorem exists_candidate {d : Double} (hfinite : d.isFinite = true) (hd : d.magnitude ≠ 0) :
    ∃ x ∈ candidates d, x.reads d = true := by
  refine ⟨⟨d.ratio.1 * Nat.pow 5 (-d.scale).toNat, -((-d.scale).toNat : Int)⟩, ?_, ?_⟩
  · simp [candidates]
  · have hvalue : value ⟨d.ratio.1 * Nat.pow 5 (-d.scale).toNat, -((-d.scale).toNat : Int)⟩ =
        d.value := by
      have hden : (d.ratio.2 : ℚ) = 2 ^ (-d.scale).toNat := by
        simp [Double.ratio, Nat.shiftLeft_eq]
      have hten : (10 : ℚ) = 5 * 2 := by norm_num
      simp only [value, Nat.pow_eq, zpow_neg, zpow_natCast]
      push_cast
      rw [Double.ratio_value, hden, hten, mul_pow]
      field_simp
    rw [reads, ofDecimal_eq hfinite hd hvalue]
    exact beq_self_eq_true d

/-- The decimal number that writes a double reads as the double. -/
theorem ofDecimal_shortest {d : Double} (hfinite : d.isFinite = true) (hd : d.magnitude ≠ 0) :
    Double.ofDecimal d.negative (shortest d).digits (shortest d).exponent = d := by
  obtain ⟨x, hx, hreads⟩ := exists_candidate hfinite hd
  have hsome : ((candidates d).find? (·.reads d)).isSome :=
    List.find?_isSome.mpr ⟨x, hx, hreads⟩
  obtain ⟨y, hy⟩ := Option.isSome_iff_exists.mp hsome
  have hyreads : y.reads d = true := List.find?_some (p := fun x : Decimal => x.reads d) hy
  have hread : Double.ofDecimal d.negative y.digits y.exponent = d := eq_of_beq hyreads
  have hshortest : shortest d = strip 17 y := by
    rw [shortest, if_neg hd, hy, Option.getD_some]
  rw [hshortest, ofDecimal_congr d.negative (strip_value 17 y), hread]

theorem shortest_digits_ne_zero {d : Double} (hfinite : d.isFinite = true)
    (hd : d.magnitude ≠ 0) : (shortest d).digits ≠ 0 := by
  intro hzero
  have hread := ofDecimal_shortest hfinite hd
  rw [hzero] at hread
  apply hd
  rw [← hread]
  simp [Double.ofDecimal, Double.zero]

/-- The value of the decimal number that writes a double and the sign determine the double. -/
theorem eq_of_shortest_value {c d : Double} (hc : c.isFinite = true) (hd : d.isFinite = true)
    (hc₀ : c.magnitude ≠ 0) (hd₀ : d.magnitude ≠ 0) (hsign : c.negative = d.negative)
    (h : (shortest c).value = (shortest d).value) : c = d := by
  rw [← ofDecimal_shortest hc hc₀, ← ofDecimal_shortest hd hd₀, hsign]
  exact ofDecimal_congr d.negative h

end Decimal

end ApiScreens
