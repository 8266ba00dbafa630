import ApiScreens.Proofs.Text.Lowercase
import ApiScreens.Text.Slug

/-!
# Slugs keep letters and digits

The letters and digits of a slug are those of its text in lower case, or the word `resource` if
there are none. So a capital at the front leaves a slug as it is exactly if it brings in no letters or
digits that the text did not begin with.
-/

namespace ApiScreens.Text

section Characters

variable {c : Char}

theorem isSlugChar_iff : isSlugChar c = true ↔
    48 ≤ c.toNat ∧ c.toNat ≤ 57 ∨ 65 ≤ c.toNat ∧ c.toNat ≤ 90 ∨ 97 ≤ c.toNat ∧ c.toNat ≤ 122 := by
  have hupper : c.isUpper = true ↔ 65 ≤ c.toNat ∧ c.toNat ≤ 90 := by
    delta Char.isUpper
    simp [UInt32.le_iff_toNat_le]
  have hlower : c.isLower = true ↔ 97 ≤ c.toNat ∧ c.toNat ≤ 122 := by
    delta Char.isLower
    simp [UInt32.le_iff_toNat_le]
  have hsplit : isSlugChar c = (c.isUpper || c.isLower || c.isDigit) := rfl
  rw [hsplit, Bool.or_eq_true, Bool.or_eq_true, hupper, hlower, isDigit_iff]
  omega

theorem isSlugChar_of_not_ascii (h : ¬ c.toNat < 0x80) : isSlugChar c = false := by
  rw [Bool.eq_false_iff, ne_eq, isSlugChar_iff]
  omega

theorem toNat_ofNat_of_ascii {n : Nat} (h : n < 0x80) : (Char.ofNat n).toNat = n := by
  have hvalid : n.isValidChar := Or.inl (by omega)
  rw [Char.ofNat, dif_pos hvalid]
  rfl

theorem toNat_asciiLowercase (c : Char) : (asciiLowercase c).toNat =
    if 65 ≤ c.toNat ∧ c.toNat ≤ 90 then c.toNat + 32 else c.toNat := by
  have hrange : ('A' ≤ c ∧ c ≤ 'Z') ↔ 65 ≤ c.toNat ∧ c.toNat ≤ 90 := by
    simp [Char.le_def, UInt32.le_iff_toNat_le]
  simp only [asciiLowercase, hrange]
  split
  · exact toNat_ofNat_of_ascii (by omega)
  · rfl

theorem toNat_asciiUppercase (c : Char) : (asciiUppercase c).toNat =
    if 97 ≤ c.toNat ∧ c.toNat ≤ 122 then c.toNat - 32 else c.toNat := by
  have hrange : ('a' ≤ c ∧ c ≤ 'z') ↔ 97 ≤ c.toNat ∧ c.toNat ≤ 122 := by
    simp [Char.le_def, UInt32.le_iff_toNat_le]
  simp only [asciiUppercase, hrange]
  split
  · exact toNat_ofNat_of_ascii (by omega)
  · rfl

theorem isSlugChar_asciiLowercase (c : Char) : isSlugChar (asciiLowercase c) = isSlugChar c := by
  rw [Bool.eq_iff_iff, isSlugChar_iff, isSlugChar_iff, toNat_asciiLowercase]
  split <;> omega

theorem isSlugChar_asciiUppercase (c : Char) : isSlugChar (asciiUppercase c) = isSlugChar c := by
  rw [Bool.eq_iff_iff, isSlugChar_iff, isSlugChar_iff, toNat_asciiUppercase]
  split <;> omega

theorem asciiLowercase_asciiUppercase (c : Char) :
    asciiLowercase (asciiUppercase c) = asciiLowercase c := by
  rw [← Char.toNat_inj, toNat_asciiLowercase, toNat_asciiLowercase, toNat_asciiUppercase]
  by_cases hsmall : 97 ≤ c.toNat ∧ c.toNat ≤ 122
  · rw [if_pos hsmall, if_pos (by omega), if_neg (by omega)]
    omega
  · rw [if_neg hsmall]

end Characters

section Slugs

variable {cs : List Char}

/-- Before a slug has begun, it does not matter what has been left out. -/
theorem slugChars_not_begun (pending : Bool) (cs : List Char) :
    slugChars false pending cs = slugChars false false cs := by
  cases cs with
  | nil => rfl
  | cons c rest => simp [slugChars]

/-- Characters without letters and digits at the front have no part in a slug. -/
theorem slugChars_append_of_none {front : List Char} (h : ∀ c ∈ front, isSlugChar c = false)
    (cs : List Char) : slugChars false false (front ++ cs) = slugChars false false cs := by
  induction front with
  | nil => rfl
  | cons c rest ih =>
      obtain ⟨hc, hrest⟩ := List.forall_mem_cons.mp h
      rw [List.cons_append, slugChars, hc, if_neg Bool.false_ne_true, slugChars_not_begun]
      exact ih hrest

/-- The letters and digits of a slug are those of the text, in lower case. -/
theorem filter_slugChars (begun pending : Bool) (cs : List Char) :
    (slugChars begun pending cs).filter isSlugChar =
      (cs.filter isSlugChar).map asciiLowercase := by
  have hhyphen : isSlugChar '-' = false := rfl
  induction cs generalizing begun pending with
  | nil => rfl
  | cons c rest ih =>
      cases hc : isSlugChar c with
      | false => simp [slugChars, hc, ih]
      | true =>
          have hlower : isSlugChar (asciiLowercase c) = true := by
            rw [isSlugChar_asciiLowercase, hc]
          cases hyphen : begun && pending <;> simp [slugChars, hc, hlower, hhyphen, hyphen, ih]

theorem countP_slugChars (begun pending : Bool) (cs : List Char) :
    (slugChars begun pending cs).countP isSlugChar = cs.countP isSlugChar := by
  rw [List.countP_eq_length_filter, filter_slugChars, List.length_map,
    ← List.countP_eq_length_filter]

theorem slugChars_eq_nil_iff (pending : Bool) (cs : List Char) :
    slugChars false pending cs = [] ↔ cs.countP isSlugChar = 0 := by
  induction cs generalizing pending with
  | nil => simp [slugChars]
  | cons c rest ih => cases hc : isSlugChar c <;> simp [slugChars, hc, ih]

/-- The number of letters and digits in a slug; the word `resource` has eight. -/
theorem countP_slug (s : String) : (slug s).toList.countP isSlugChar =
    if s.toList.countP isSlugChar = 0 then 8 else s.toList.countP isSlugChar := by
  simp only [slug, List.isEmpty_iff, slugChars_eq_nil_iff]
  split
  · rfl
  · rw [String.toList_ofList, countP_slugChars]

end Slugs

section Titles

/-- Whether a capital at the front of a text brings in no letters or digits: the first character is
an ASCII one, or its capital form has none. -/
def KeepsSlug (s : String) : Prop :=
  ∀ c, s.toList.head? = some c → c.toNat < 0x80 ∨ ∀ u ∈ uppercaseChar c, isSlugChar u = false

theorem length_uppercaseChar (c : Char) : (uppercaseChar c).length ≤ 3 := by
  have hforms : ∀ e ∈ uppercaseExpansions, e.2.length ≤ 3 := by decide +kernel
  unfold uppercaseChar
  split
  · simp
  · split
    · rename_i forms hfind
      rw [List.length_map]
      exact hforms _ (List.mem_of_find?_eq_some hfind)
    · split <;> simp

theorem toList_capitalize {s : String} {c : Char} {rest : List Char} (hs : s.toList = c :: rest) :
    (capitalize s).toList = uppercaseChar c ++ rest := by
  rw [capitalize, String.toList_ofList, hs, capitalizeChars]

theorem capitalize_of_empty {s : String} (hs : s.toList = []) : capitalize s = s := by
  rw [capitalize, hs, capitalizeChars, ← hs, String.ofList_toList]

theorem KeepsSlug.slug_capitalize {s : String} (h : KeepsSlug s) :
    slug (capitalize s) = slug s := by
  cases hs : s.toList with
  | nil => rw [capitalize_of_empty hs]
  | cons c rest =>
      suffices slugChars false false (uppercaseChar c ++ rest) =
          slugChars false false (c :: rest) by
        rw [slug, slug, toList_capitalize hs, hs, this]
      by_cases hascii : c.toNat < 0x80
      · have hupper : uppercaseChar c = [asciiUppercase c] := if_pos hascii
        simp [hupper, slugChars, isSlugChar_asciiUppercase, asciiLowercase_asciiUppercase]
      · have hnone := (h c (by rw [hs]; rfl)).resolve_left hascii
        rw [slugChars_append_of_none hnone, ← List.singleton_append, slugChars_append_of_none]
        simpa using isSlugChar_of_not_ascii hascii

/-- Every letter or digit that a capital brings in is one more in the slug; the word `resource` has
too many to make up for that. -/
theorem keepsSlug_of_slug_capitalize {s : String} (h : slug (capitalize s) = slug s) :
    KeepsSlug s := by
  intro c hc
  by_cases hascii : c.toNat < 0x80
  · exact .inl hascii
  right
  obtain ⟨rest, hs⟩ : ∃ rest, s.toList = c :: rest := List.head?_eq_some_iff.mp hc
  have hcount := congrArg (fun t => t.toList.countP isSlugChar) h
  have hout : ¬ isSlugChar c = true := by simp [isSlugChar_of_not_ascii hascii]
  simp only [countP_slug, toList_capitalize hs, hs, List.countP_append,
    List.countP_cons_of_neg hout] at hcount
  have hfew : (uppercaseChar c).countP isSlugChar ≤ 3 :=
    Nat.le_trans List.countP_le_length (length_uppercaseChar c)
  have hnone : (uppercaseChar c).countP isSlugChar = 0 := by
    split at hcount <;> split at hcount <;> omega
  simpa [List.countP_eq_zero] using hnone

/-- A capital at the front of a text keeps the slug exactly if it brings in no letters or digits. -/
theorem slug_capitalize_iff (s : String) : slug (capitalize s) = slug s ↔ KeepsSlug s :=
  ⟨keepsSlug_of_slug_capitalize, KeepsSlug.slug_capitalize⟩

end Titles

end ApiScreens.Text
