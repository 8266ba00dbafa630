import ApiScreens.Json.Printer
import ApiScreens.Json.Reader

/-!
# Texts of JSON strings

The literal of a string reads back as the string, with the text behind it left over. So a string
and the text behind its literal can be told from their joined text.
-/

namespace ApiScreens.Json

theorem hexValue4?_control {n : Nat} (h : n < 0x20) :
    hexValue4? '0' '0' (hexDigit (n / 16)) (hexDigit (n % 16)) = some n := by
  have hall : ∀ n < 0x20, hexValue4? '0' '0' (hexDigit (n / 16)) (hexDigit (n % 16)) = some n := by
    decide
  exact hall n h

/-- A control without a short escape is read from its code. -/
theorem readString_control {n : Nat} (h : n < 0x20) (rest : List Char) :
    readString ('\\' :: 'u' :: '0' :: '0' :: hexDigit (n / 16) :: hexDigit (n % 16) :: rest) =
      (readString rest).map fun p => (Char.ofNat n :: p.1, p.2) := by
  have hhigh : isHighSurrogate n = false := by
    simp only [isHighSurrogate, Bool.and_eq_false_iff, decide_eq_false_iff_not]
    omega
  have hlow : isLowSurrogate n = false := by
    simp only [isLowSurrogate, Bool.and_eq_false_iff, decide_eq_false_iff_not]
    omega
  simp only [readString, hexValue4?_control h, hhigh, hlow, Bool.false_eq_true, if_false]

/-- A character that needs no escape is read as it stands. -/
theorem readString_cons {c : Char} (hquote : c ≠ '"') (hslash : c ≠ '\\') (h : ¬ c.toNat < 0x20)
    (rest : List Char) :
    readString (c :: rest) = (readString rest).map fun p => (c :: p.1, p.2) := by
  rw [readString, if_neg h]
  · exact hquote
  · intro _ _ _ _ _ h _
    exact hslash h
  · intro _ _ h _
    exact hslash h

/-- The escaped form of a character is read as the character. -/
theorem readString_escapedChar (c : Char) (rest : List Char) :
    readString (escapedChar c ++ rest) = (readString rest).map fun p => (c :: p.1, p.2) := by
  unfold escapedChar
  split
  case h_8 c hquote hslash _ _ _ _ _ =>
    split
    · rename_i h
      rw [List.cons_append, List.cons_append, List.cons_append, List.cons_append,
        List.cons_append, List.cons_append, List.nil_append, readString_control h, Char.ofNat_toNat]
    · rename_i h
      exact readString_cons hquote hslash h rest
  all_goals simp [readString, escape?]

/-- A string is read off the front of its literal, past the opening quote. -/
theorem readString_literal (s rest : List Char) :
    readString (s.flatMap escapedChar ++ '"' :: rest) = some (s, rest) := by
  induction s with
  | nil => rfl
  | cons c s ih =>
      rw [List.flatMap_cons, List.append_assoc, readString_escapedChar, ih]
      rfl

/-- A string and the text behind its literal can be told from their joined text. -/
theorem stringChars_append_injective {s t : String} {rest rest' : List Char}
    (h : stringChars s ++ rest = stringChars t ++ rest') : s = t ∧ rest = rest' := by
  have hbody : s.toList.flatMap escapedChar ++ '"' :: rest =
      t.toList.flatMap escapedChar ++ '"' :: rest' := by
    simpa [stringChars] using h
  have hread := congrArg readString hbody
  rw [readString_literal, readString_literal] at hread
  obtain ⟨hlist, hrest⟩ := Prod.mk.inj (Option.some.inj hread)
  exact ⟨String.toList_injective hlist, hrest⟩

end ApiScreens.Json
