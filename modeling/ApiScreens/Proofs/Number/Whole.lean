import ApiScreens.Proofs.Number.Nearest

/-!
# Whole doubles

A double that is a small whole number is the double nearest to that number, apart from the sign of
zero. The double nearest to a number of 64 bits is finite.
-/

namespace ApiScreens.Double

/-- The double, with zero taken as the positive one. -/
def withoutZeroSign (d : Double) : Double := if d.magnitude = 0 then zero false else d

variable {d : Double}

theorem withoutZeroSign_of_zero (h : d.magnitude = 0) : d.withoutZeroSign = zero false := if_pos h

theorem withoutZeroSign_of_ne_zero (h : d.magnitude ≠ 0) : d.withoutZeroSign = d := if_neg h

theorem eq_zero_of_magnitude (h : d.magnitude = 0) : d = zero d.negative := by
  obtain ⟨negative, magnitude, hlt⟩ := d
  obtain rfl : magnitude = 0 := h
  rfl

theorem toSmallInt?_of_zero (h : d.magnitude = 0) : d.toSmallInt? = some 0 := by
  rw [eq_zero_of_magnitude h]
  cases d.negative <;> rfl

theorem ratio_den_pos (d : Double) : 0 < d.ratio.2 := by
  simp only [ratio, Nat.shiftLeft_eq, Nat.one_mul]
  exact Nat.two_pow_pos _

/-- A double is a small whole number if its fraction is one, with the sign of the double. -/
theorem exists_of_toSmallInt? {n : Int} (h : d.toSmallInt? = some n) :
    d.isFinite = true ∧ ∃ q : Nat, q * d.ratio.2 = d.ratio.1 ∧ q < 2 * fractions ∧
      n = if d.negative then -(q : Int) else (q : Int) := by
  simp only [toSmallInt?, Option.ite_none_right_eq_some, Bool.and_eq_true, beq_iff_eq,
    decide_eq_true_eq, Option.some.injEq] at h
  obtain ⟨⟨⟨hfinite, hwhole⟩, hlt⟩, hn⟩ := h
  exact ⟨hfinite, _, Nat.div_mul_cancel (Nat.dvd_of_mod_eq_zero hwhole), hlt, hn.symm⟩

theorem natAbs_lt_of_toSmallInt? {n : Int} (h : d.toSmallInt? = some n) :
    n.natAbs < 2 * fractions := by
  obtain ⟨-, q, -, hlt, rfl⟩ := exists_of_toSmallInt? h
  cases d.negative <;> simpa using hlt

/-- A double that is a small whole number is nearest to that number. -/
theorem ofInt_of_toSmallInt? {n : Int} (h : d.toSmallInt? = some n) :
    ofInt n = d.withoutZeroSign := by
  by_cases hzero : d.magnitude = 0
  · obtain rfl : 0 = n := Option.some.inj ((toSmallInt?_of_zero hzero).symm.trans h)
    rw [withoutZeroSign_of_zero hzero]
    rfl
  · obtain ⟨hfinite, q, hq, -, rfl⟩ := exists_of_toSmallInt? h
    have hnearest : nearestMagnitude q 1 = d.magnitude := by
      calc
        nearestMagnitude q 1 = nearestMagnitude d.ratio.1 d.ratio.2 :=
          nearestMagnitude_congr Nat.one_pos d.ratio_den_pos (by rw [hq, Nat.mul_one])
        _ = d.magnitude := nearestMagnitude_ratio hzero
    have hpos : 0 < q := Nat.pos_of_mul_pos_right (hq.symm ▸ (ratio_pos hzero).1)
    have hle : d.magnitude ≤ infinity := Nat.le_of_lt (of_decide_eq_true hfinite)
    rw [withoutZeroSign_of_ne_zero hzero]
    obtain ⟨negative, magnitude, hlt⟩ := d
    cases negative <;> simp [ofInt, ofRatio, hnearest, hpos, hle]

section Nearest

theorem log2Ratio_one {n : Nat} (h : 0 < n) : log2Ratio n 1 = n.log2 := by
  apply log2Ratio_eq h Nat.one_pos
  · simpa using two_zpow_log2_le h
  · simpa using lt_two_zpow_log2 n

theorem roundQuotient_le (num den : Nat) : roundQuotient num den ≤ num / den + 1 := by
  simp only [roundQuotient]
  split
  · omega
  · split <;> omega

/-- A number of 64 bits is nearest to a finite magnitude. -/
theorem nearestMagnitude_one_lt {n : Nat} (h : n < 2 ^ 64) : nearestMagnitude n 1 < infinity := by
  rcases Nat.eq_zero_or_pos n with rfl | hpos
  · decide
  · have hne : n ≠ 0 := Nat.pos_iff_ne_zero.mp hpos
    have hlog : n.log2 < 64 := (Nat.log2_lt hne).mpr h
    have hbits : n < 2 ^ (n.log2 + 1) := Nat.lt_log2_self
    have hexponent : max 1 ((n.log2 : Int) + 1023) = n.log2 + 1023 := by omega
    have hwidth : n.log2 + 1 + (52 - (n.log2 : Int)).toNat =
        53 + ((n.log2 : Int) - 52).toNat := by omega
    -- The quotient that is rounded has 53 bits.
    have hquotient : n <<< (52 - (n.log2 : Int)).toNat /
        1 <<< ((n.log2 : Int) - 52).toNat < 2 ^ 53 := by
      rw [Nat.shiftLeft_eq, Nat.shiftLeft_eq, Nat.one_mul,
        Nat.div_lt_iff_lt_mul (Nat.two_pow_pos _), ← Nat.pow_add, ← hwidth, Nat.pow_add]
      exact Nat.mul_lt_mul_of_pos_right hbits (Nat.two_pow_pos _)
    have hround := roundQuotient_le (n <<< (52 - (n.log2 : Int)).toNat)
      (1 <<< ((n.log2 : Int) - 52).toNat)
    have hunit : (1075 : Int) - (n.log2 + 1023) = 52 - n.log2 := by omega
    have hneg : -((52 : Int) - n.log2) = n.log2 - 52 := by omega
    have hbelow : ((n.log2 : Int) + 1023 - 1).toNat = n.log2 + 1022 := by omega
    simp only [nearestMagnitude, if_neg hne, log2Ratio_one hpos, hexponent, hunit, hneg, hbelow]
    unfold infinity fractions
    omega

theorem isFinite_ofInt {n : Int} (h : n.natAbs < 2 ^ 64) : (ofInt n).isFinite = true :=
  decide_eq_true (Nat.lt_of_le_of_lt (Nat.min_le_right _ _) (nearestMagnitude_one_lt h))

end Nearest

end ApiScreens.Double
