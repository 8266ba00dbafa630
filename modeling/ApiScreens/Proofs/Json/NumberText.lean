import ApiScreens.Json.Number
import ApiScreens.Proofs.Number.DecimalText

/-!
# Texts of JSON numbers

Different numbers have different texts, an integer and a double with the same value included. The
text of a number ends where a character follows that no number has.
-/

namespace ApiScreens.Decimal

theorem intChars_eq_cons (n : Int) :
    ∃ c rest, intChars n = c :: rest ∧ (c.isDigit = true ∨ c = '-') := by
  unfold intChars
  split
  · exact ⟨_, _, rfl, Or.inr rfl⟩
  · obtain ⟨c, rest, h⟩ := List.exists_cons_of_length_pos (length_digitChars_pos n.natAbs)
    exact ⟨c, rest, h, Or.inl (allDigits_digitChars _ c (h ▸ List.mem_cons_self))⟩

theorem isNumberChar_intChars (n : Int) : ∀ c ∈ intChars n, isNumberChar c = true := by
  have hdigits := (allDigits_digitChars n.natAbs).isNumberChar
  unfold intChars
  split
  · exact List.forall_mem_cons.mpr ⟨rfl, hdigits⟩
  · exact hdigits

theorem not_mem_intChars (mark : Char) (hdigit : mark.isDigit = false) (hminus : mark ≠ '-')
    (n : Int) : mark ∉ intChars n := by
  have hdigits := (allDigits_digitChars n.natAbs).not_mem hdigit
  unfold intChars
  split
  · exact List.not_mem_cons_of_ne_of_not_mem hminus hdigits
  · exact hdigits

theorem digitChars_ne_minus (n : Nat) (rest : List Char) : digitChars n ≠ '-' :: rest := by
  intro h
  exact (allDigits_digitChars n).not_mem (c := '-') rfl (h ▸ List.mem_cons_self)

theorem digitChars_injective {m n : Nat} (h : digitChars m = digitChars n) : m = n := by
  rw [← digitsValue_digitChars m, h, digitsValue_digitChars]

/-- The text of an integer determines the integer. -/
theorem intChars_injective {m n : Int} (h : intChars m = intChars n) : m = n := by
  unfold intChars at h
  split at h <;> split at h
  · have := digitChars_injective (List.cons.inj h).2
    omega
  · exact absurd h.symm (digitChars_ne_minus _ _)
  · exact absurd h (digitChars_ne_minus _ _)
  · have := digitChars_injective h
    omega

end ApiScreens.Decimal

namespace ApiScreens.Json.Number

open Decimal (isNumberChar intChars)

theorem layout_signed : layout.Signed := Or.inr rfl

theorem isNumberChar_chars (n : Number) : ∀ c ∈ n.chars, isNumberChar c = true := by
  cases n with
  | int n bounds => exact Decimal.isNumberChar_intChars n
  | double d finite => exact Decimal.isNumberChar_write layout_signed d

/-- The text of a number begins with a digit or a minus sign. -/
theorem chars_eq_cons (n : Number) :
    ∃ c rest, n.chars = c :: rest ∧ (c.isDigit = true ∨ c = '-') := by
  cases n with
  | int n bounds => exact Decimal.intChars_eq_cons n
  | double d finite =>
      obtain ⟨c, rest, h, hc⟩ := Decimal.absolute_eq_cons layout d
      rw [chars, Decimal.write_eq, h]
      split
      · exact ⟨_, _, rfl, Or.inr rfl⟩
      · exact ⟨_, _, rfl, Or.inl hc⟩

theorem intChars_ne_write (n : Int) (d : Double) : intChars n ≠ layout.write d := by
  intro h
  rcases Decimal.mark_mem_write layout d with hmark | hmark
  · exact Decimal.not_mem_intChars '.' rfl (by decide) n (h ▸ hmark)
  · exact Decimal.not_mem_intChars 'e' rfl (by decide) n (h ▸ hmark)

/-- Different numbers have different texts. -/
theorem chars_injective {m n : Number} (h : m.chars = n.chars) : m = n := by
  cases m with
  | int m hm =>
      cases n with
      | int n hn =>
          obtain rfl := Decimal.intChars_injective h
          rfl
      | double d hd => exact absurd h (intChars_ne_write m d)
  | double c hc =>
      cases n with
      | int n hn => exact absurd h.symm (intChars_ne_write n c)
      | double d hd =>
          obtain rfl := Decimal.eq_of_write_eq layout_signed hc hd h
          rfl

theorem text_injective {m n : Number} (h : m.text = n.text) : m = n :=
  chars_injective (String.ofList_injective h)

/-- A text that no number goes on with. -/
def Closing (rest : List Char) : Prop := ∀ c ∈ rest.head?, isNumberChar c = false

theorem takeWhile_append {s rest : List Char} (hs : ∀ c ∈ s, isNumberChar c = true)
    (hrest : Closing rest) : (s ++ rest).takeWhile isNumberChar = s := by
  rw [List.takeWhile_append_of_pos hs]
  cases rest with
  | nil => simp
  | cons c rest =>
      have hc := hrest c rfl
      simp [hc]

/-- A number and the text behind it can be told from their joined text. -/
theorem chars_append_injective {m n : Number} {rest rest' : List Char} (hrest : Closing rest)
    (hrest' : Closing rest') (h : m.chars ++ rest = n.chars ++ rest') : m = n ∧ rest = rest' := by
  have hchars : m.chars = n.chars := by
    rw [← takeWhile_append (isNumberChar_chars m) hrest, h,
      takeWhile_append (isNumberChar_chars n) hrest']
  refine ⟨chars_injective hchars, ?_⟩
  rw [hchars] at h
  exact List.append_cancel_left h

end ApiScreens.Json.Number
