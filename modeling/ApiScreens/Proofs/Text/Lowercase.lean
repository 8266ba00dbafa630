import ApiScreens.Text.Case

/-!
# Lower-case forms of characters

The lower-case form of a character is not empty, digits are their own, and no other character has
one that begins with a digit.
-/

namespace ApiScreens.Text

theorem isDigit_iff {c : Char} : c.isDigit = true ↔ 48 ≤ c.toNat ∧ c.toNat ≤ 57 :=
  Char.isDigit_iff_toNat

/-- A code point that is no character counts as zero. -/
theorem toNat_ofNat (n : Nat) : (Char.ofNat n).toNat = n ∨ (Char.ofNat n).toNat = 0 := by
  by_cases h : n.isValidChar
  · left
    rw [Char.ofNat, dif_pos h]
    rfl
  · right
    rw [Char.ofNat, dif_neg h]
    rfl

theorem isDigit_ofNat_eq_false {n : Nat} (h : 57 < n) : (Char.ofNat n).isDigit = false := by
  rw [Bool.eq_false_iff, ne_eq, isDigit_iff]
  have := toNat_ofNat n
  omega

/-- Every run of the table stays above the digits. -/
theorem lowercaseShifts_above_digits :
    ∀ s ∈ lowercaseShifts, 57 < (s.run.first : Int) + s.distance := by
  decide +kernel

theorem isDigit_of_target? {c d : Char} (h : Shift.target? lowercaseShifts c = some d) :
    d.isDigit = false := by
  obtain ⟨s, hs, rfl⟩ := Option.map_eq_some_iff.mp h
  have habove := lowercaseShifts_above_digits s (List.mem_of_find?_eq_some hs)
  have hfirst : s.run.first ≤ c.toNat := by
    have hholds := List.find?_some hs
    simp only [Run.holds, Bool.and_eq_true, decide_eq_true_eq] at hholds
    exact hholds.1.1
  apply isDigit_ofNat_eq_false
  have hcast : Int.ofNat c.toNat = (c.toNat : Int) := rfl
  omega

/-- Lower case of ASCII keeps digits apart from all others. -/
theorem isDigit_asciiLowercase (c : Char) : (asciiLowercase c).isDigit = c.isDigit := by
  by_cases h : 'A' ≤ c ∧ c ≤ 'Z'
  · have hlow : 65 ≤ c.toNat := UInt32.le_iff_toNat_le.mp h.1
    have hdigit : c.isDigit = false := by
      rw [Bool.eq_false_iff, ne_eq, isDigit_iff]
      omega
    rw [asciiLowercase, if_pos h, hdigit]
    exact isDigit_ofNat_eq_false (by omega)
  · rw [asciiLowercase, if_neg h]

/-- The lower-case form of a character that is no digit begins with one that is none either. -/
theorem lowercaseChar_eq_cons {c : Char} (h : c.isDigit = false) :
    ∃ d rest, lowercaseChar c = d :: rest ∧ d.isDigit = false := by
  unfold lowercaseChar
  split
  · exact ⟨_, _, rfl, (isDigit_asciiLowercase c).trans h⟩
  · split
    · exact ⟨_, _, rfl, rfl⟩
    · split
      · rename_i d hd
        exact ⟨_, _, rfl, isDigit_of_target? hd⟩
      · exact ⟨_, _, rfl, h⟩

end ApiScreens.Text
