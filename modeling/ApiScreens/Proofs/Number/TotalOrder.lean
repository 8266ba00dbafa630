import ApiScreens.Proofs.Number.Nearest
import Mathlib.Order.WithBot

/-!
# The total order of doubles

Doubles that are numbers or infinities stand in the order of their values. Two of them have the same
value only as zeros of different sign, and there the negative one comes first.
-/

namespace ApiScreens.Double

variable {d e : Double}

/-- The value of a finite double with its sign. -/
def signedValue (d : Double) : ℚ := if d.negative then -d.value else d.value

/-- The value of a double that is a number or an infinity. -/
def extendedValue (d : Double) : WithBot (WithTop ℚ) :=
  if d.isFinite then ((d.signedValue : WithTop ℚ) : WithBot (WithTop ℚ))
  else if d.negative then ⊥ else ⊤

section Magnitudes

theorem value_lt_of_magnitude_lt (h : d.magnitude < e.magnitude) : d.value < e.value := by
  have hscale : d.scale = e.scale ∧ d.significand < e.significand ∨
      d.scale < e.scale ∧ 2 ^ 52 ≤ e.significand := by
    unfold scale significand fractions
    split <;> split <;> omega
  rcases hscale with ⟨hscale, hlt⟩ | ⟨hscale, hle⟩
  · unfold value
    rw [hscale]
    gcongr
  · calc
      d.value < 2 ^ 53 * 2 ^ d.scale := by
        unfold value
        gcongr
        exact_mod_cast (significand_bounds d).1
      _ = 2 ^ 52 * 2 ^ (d.scale + 1) := by
        rw [zpow_add_one₀ two_ne_zero]
        ring
      _ ≤ e.significand * 2 ^ e.scale := by
        gcongr
        · exact_mod_cast hle
        · exact one_le_two
        · exact hscale

/-- Magnitudes are ordered as the absolute values are. -/
theorem value_lt_value_iff : d.value < e.value ↔ d.magnitude < e.magnitude := by
  refine ⟨fun h => ?_, value_lt_of_magnitude_lt⟩
  by_contra hle
  rcases Nat.lt_or_eq_of_le (Nat.not_lt.mp hle) with hlt | heq
  · exact lt_asymm h (value_lt_of_magnitude_lt hlt)
  · have hsame : d.value = e.value := by simp [value, significand, scale, heq]
    exact h.ne hsame

theorem value_nonneg (d : Double) : 0 ≤ d.value := by
  unfold value
  positivity

end Magnitudes

theorem totalOrder_eq_lt : totalOrder d e = .lt ↔ d.rank < e.rank := Int.compare_eq_lt

theorem eq_zero_iff {negative : Bool} :
    d = zero negative ↔ d.magnitude = 0 ∧ d.negative = negative := by
  obtain ⟨_, _, _⟩ := d
  simp [zero, and_comm]

/-- Doubles are ordered as their values are, except for zeros of different sign. -/
theorem rank_lt_rank_iff :
    d.rank < e.rank ↔ d.signedValue < e.signedValue ∨ d = zero true ∧ e = zero false := by
  have hd := d.value_nonneg
  have he := e.value_nonneg
  rw [eq_zero_iff, eq_zero_iff]
  cases hdn : d.negative <;> cases hen : e.negative <;>
    simp only [rank, signedValue, hdn, hen, if_true, Bool.false_eq_true, if_false]
  case false.false => simp [value_lt_value_iff]
  case true.true =>
    have hmagnitude : -(d.magnitude : Int) - 1 < -(e.magnitude : Int) - 1 ↔
        e.magnitude < d.magnitude := by omega
    simp [value_lt_value_iff, hmagnitude]
  case false.true =>
    have hrank : ¬ (d.magnitude : Int) < -(e.magnitude : Int) - 1 := by omega
    have hvalue : ¬ d.value < -e.value := by linarith
    simp [hrank, hvalue]
  case true.false =>
    refine iff_of_true (by omega) ?_
    by_cases hzero : d.magnitude = 0 ∧ e.magnitude = 0
    · right
      simp [hzero]
    · left
      rcases not_and_or.mp hzero with hpos | hpos
      · linarith [value_pos hpos]
      · linarith [value_pos hpos]

section Ends

theorem extendedValue_of_isFinite (h : d.isFinite = true) :
    d.extendedValue = ((d.signedValue : WithTop ℚ) : WithBot (WithTop ℚ)) := if_pos h

theorem extendedValue_infinite (negative : Bool) :
    (infinite negative).extendedValue = if negative then ⊥ else ⊤ := by
  have hfinite : (infinite negative).isFinite = false := by simp [isFinite, infinite]
  rw [extendedValue, hfinite]
  rfl

/-- A double that is no finite one but has a value is an infinity. -/
theorem eq_infinite (hnumber : d.isNaN = false) (h : d.isFinite = false) :
    d = infinite d.negative := by
  obtain ⟨negative, magnitude, hlt⟩ := d
  simp only [isNaN, isFinite, decide_eq_false_iff_not, not_lt] at hnumber h
  simp only [infinite, mk.injEq, true_and]
  exact Nat.le_antisymm hnumber h

theorem infinite_ne_zero (negative negative' : Bool) : infinite negative ≠ zero negative' := by
  intro h
  have hmagnitude : infinity = 0 := congrArg magnitude h
  exact absurd hmagnitude (by decide)

/-- The ranks of infinities are opposite. -/
theorem rank_infinite_lt : (infinite true).rank < (infinite false).rank := by
  simp only [rank, infinite, if_true, Bool.false_eq_true, if_false]
  omega

/-- Finite doubles rank between the infinities. -/
theorem rank_bounds (h : d.isFinite = true) :
    (infinite true).rank < d.rank ∧ d.rank < (infinite false).rank := by
  have hlt : d.magnitude < infinity := of_decide_eq_true h
  simp only [rank, infinite, if_true, Bool.false_eq_true, if_false]
  split <;> omega

end Ends

/-- Numbers and infinities are ordered by value, and the negative zero stands before the positive
one. -/
theorem totalOrder_eq_lt_iff (hd : d.isNaN = false) (he : e.isNaN = false) :
    totalOrder d e = .lt ↔
      d.extendedValue < e.extendedValue ∨ d = zero true ∧ e = zero false := by
  rw [totalOrder_eq_lt]
  cases hdf : d.isFinite <;> cases hef : e.isFinite
  case true.true =>
    rw [extendedValue_of_isFinite hdf, extendedValue_of_isFinite hef, WithBot.coe_lt_coe,
      WithTop.coe_lt_coe]
    exact rank_lt_rank_iff
  case true.false =>
    obtain ⟨hlow, hhigh⟩ := rank_bounds hdf
    rw [eq_infinite he hef, extendedValue_of_isFinite hdf, extendedValue_infinite]
    cases e.negative
    · have hbelow : ((d.signedValue : WithTop ℚ) : WithBot (WithTop ℚ)) < ⊤ :=
        WithBot.coe_lt_coe.mpr (WithTop.coe_lt_top _)
      exact iff_of_true hhigh (Or.inl hbelow)
    · simp [hlow.not_gt, infinite_ne_zero]
  case false.true =>
    obtain ⟨hlow, hhigh⟩ := rank_bounds hef
    rw [eq_infinite hd hdf, extendedValue_of_isFinite hef, extendedValue_infinite]
    cases d.negative
    · simp [hhigh.not_gt, infinite_ne_zero]
    · exact iff_of_true hlow (Or.inl (WithBot.bot_lt_coe _))
  case false.false =>
    rw [eq_infinite hd hdf, eq_infinite he hef, extendedValue_infinite, extendedValue_infinite]
    have hends : (⊥ : WithBot (WithTop ℚ)) < ⊤ := bot_lt_top
    cases d.negative <;> cases e.negative <;>
      simp [infinite_ne_zero, rank_infinite_lt, rank_infinite_lt.not_gt]

end ApiScreens.Double
