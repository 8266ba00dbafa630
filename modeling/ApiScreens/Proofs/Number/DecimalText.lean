import ApiScreens.Proofs.Number.Shortest
import Mathlib.Data.List.TakeWhile

/-!
# Texts of doubles

The text of a decimal number writes its value, whichever layout it has. So the text of a finite
double determines the double.
-/

namespace ApiScreens.Decimal

/-- The characters are digits. -/
def AllDigits (s : List Char) : Prop := ∀ c ∈ s, c.isDigit = true

theorem AllDigits.append {s t : List Char} (hs : AllDigits s) (ht : AllDigits t) :
    AllDigits (s ++ t) := by
  intro c hc
  rcases List.mem_append.mp hc with hc | hc
  · exact hs c hc
  · exact ht c hc

theorem AllDigits.not_mem {s : List Char} (h : AllDigits s) {c : Char} (hc : c.isDigit = false) :
    c ∉ s := by
  intro hmem
  rw [h c hmem] at hc
  contradiction

theorem allDigits_digitChars (n : Nat) : AllDigits (digitChars n) :=
  fun _ hc => Nat.isDigit_of_mem_toDigits (by norm_num) (by norm_num) hc

theorem allDigits_replicate_zero (n : Nat) : AllDigits (List.replicate n '0') := by
  intro c hc
  rw [(List.mem_replicate.mp hc).2]
  rfl

theorem allDigits_zero : AllDigits ['0'] := allDigits_replicate_zero 1

/-- The number that digits write. -/
def digitsValue (s : List Char) : Nat := Nat.ofDigitChars 10 s 0

@[simp] theorem digitsValue_digitChars (n : Nat) : digitsValue (digitChars n) = n :=
  Nat.ofDigitChars_ten_toDigits

theorem digitsValue_append (s t : List Char) :
    digitsValue (s ++ t) = digitsValue s * 10 ^ t.length + digitsValue t := by
  rw [digitsValue, Nat.ofDigitChars_append, Nat.ofDigitChars_eq_ofDigitChars_zero, Nat.mul_comm]
  rfl

@[simp] theorem digitsValue_replicate_zero (n : Nat) : digitsValue (List.replicate n '0') = 0 := by
  rw [digitsValue, Nat.ofDigitChars_replicate_zero, Nat.mul_zero]

@[simp] theorem digitsValue_zero : digitsValue ['0'] = 0 := rfl

/-- The text in front of the first such character. -/
def before (mark : Char) (s : List Char) : List Char := s.takeWhile (· != mark)

/-- The text behind the first such character. -/
def behind (mark : Char) (s : List Char) : List Char := (s.dropWhile (· != mark)).drop 1

section Marks

variable {mark : Char} {s : List Char}

theorem forall_ne_of_not_mem (h : mark ∉ s) : ∀ c ∈ s, (c != mark) = true := by
  intro c hc
  rw [bne_iff_ne]
  rintro rfl
  exact h hc

theorem before_append (h : mark ∉ s) (t : List Char) : before mark (s ++ mark :: t) = s := by
  rw [before, List.takeWhile_append_of_pos (forall_ne_of_not_mem h)]
  simp

theorem behind_append (h : mark ∉ s) (t : List Char) : behind mark (s ++ mark :: t) = t := by
  rw [behind, List.dropWhile_append_of_pos (forall_ne_of_not_mem h)]
  simp

theorem before_eq_self (h : mark ∉ s) : before mark s = s :=
  List.takeWhile_eq_self_iff.mpr (forall_ne_of_not_mem h)

theorem behind_eq_nil (h : mark ∉ s) : behind mark s = [] := by
  rw [behind, List.dropWhile_eq_nil_iff.mpr (forall_ne_of_not_mem h), List.drop_nil]

end Marks

/-- The number that an exponent writes. -/
def exponentValue : List Char → Int
  | '-' :: ds => -(digitsValue ds : Int)
  | '+' :: ds => digitsValue ds
  | ds => digitsValue ds

/-- The number that a text without a sign writes. -/
def textValue (s : List Char) : ℚ :=
  let mantissa := before 'e' s
  let fraction := behind '.' mantissa
  (digitsValue (before '.' mantissa ++ fraction) : ℚ) *
    10 ^ (exponentValue (behind 'e' s) - fraction.length)

section TextValue

variable {whole fraction : List Char}

theorem textValue_point (hw : AllDigits whole) (hf : AllDigits fraction) :
    textValue (whole ++ '.' :: fraction) =
      digitsValue (whole ++ fraction) * 10 ^ (-(fraction.length : Int)) := by
  have he : 'e' ∉ whole ++ '.' :: fraction := by
    simp [hw.not_mem (c := 'e') rfl, hf.not_mem (c := 'e') rfl]
  simp only [textValue, before_eq_self he, behind_eq_nil he,
    before_append (hw.not_mem (c := '.') rfl), behind_append (hw.not_mem (c := '.') rfl),
    exponentValue, digitsValue, Nat.ofDigitChars_nil, Nat.cast_zero, zero_sub]

theorem textValue_exponent (hw : AllDigits whole) (exponent : List Char) :
    textValue (whole ++ 'e' :: exponent) = digitsValue whole * 10 ^ exponentValue exponent := by
  have hpoint : '.' ∉ whole := hw.not_mem rfl
  simp only [textValue, before_append (hw.not_mem (c := 'e') rfl),
    behind_append (hw.not_mem (c := 'e') rfl), before_eq_self hpoint, behind_eq_nil hpoint,
    List.append_nil, List.length_nil, Nat.cast_zero, sub_zero]

theorem textValue_point_exponent (hw : AllDigits whole) (hf : AllDigits fraction)
    (exponent : List Char) :
    textValue ((whole ++ '.' :: fraction) ++ 'e' :: exponent) =
      digitsValue (whole ++ fraction) * 10 ^ (exponentValue exponent - fraction.length) := by
  have he : 'e' ∉ whole ++ '.' :: fraction := by
    simp [hw.not_mem (c := 'e') rfl, hf.not_mem (c := 'e') rfl]
  simp only [textValue, before_append he, behind_append he,
    before_append (hw.not_mem (c := '.') rfl), behind_append (hw.not_mem (c := '.') rfl)]

end TextValue

/-- The sign of positive exponents is a plus or nothing. -/
def Layout.Signed (layout : Layout) : Prop :=
  layout.exponentSign = [] ∨ layout.exponentSign = ['+']

/-- How a layout writes an exponent. -/
def Layout.exponentChars (layout : Layout) (e : Int) : List Char :=
  if e < 0 then '-' :: digitChars e.natAbs else layout.exponentSign ++ digitChars e.natAbs

theorem exponentValue_digitChars (n : Nat) : exponentValue (digitChars n) = n := by
  have hdigits := allDigits_digitChars n
  unfold exponentValue
  split
  · rename_i ds h
    exact absurd (h ▸ List.mem_cons_self) (hdigits.not_mem (c := '-') rfl)
  · rename_i ds h
    exact absurd (h ▸ List.mem_cons_self) (hdigits.not_mem (c := '+') rfl)
  · rw [digitsValue_digitChars]

theorem exponentValue_exponentChars {layout : Layout} (h : layout.Signed) (e : Int) :
    exponentValue (layout.exponentChars e) = e := by
  unfold Layout.exponentChars
  split
  · rw [exponentValue, digitsValue_digitChars]
    omega
  · rcases h with h | h
    · rw [h, List.nil_append, exponentValue_digitChars]
      omega
    · rw [h, List.cons_append, List.nil_append, exponentValue, digitsValue_digitChars]
      omega

section Unsigned

variable {layout : Layout} {x : Decimal}

/-- The layout writes a decimal number in place. -/
def Layout.Positional (layout : Layout) (x : Decimal) : Prop :=
  layout.positionalFrom ≤ x.ceiling - 1 ∧ x.ceiling - 1 ≤ layout.positionalTo

theorem lead_eq (x : Decimal) :
    ((digitChars x.digits).length : Int) - 1 + x.exponent = x.ceiling - 1 := by
  unfold ceiling digitChars
  omega

theorem unsigned_below_one (h : layout.Positional x) (hlead : x.ceiling ≤ 0) :
    layout.unsigned x =
      ['0'] ++ '.' :: (List.replicate (-x.ceiling).toNat '0' ++ digitChars x.digits) := by
  have hzeros : (-(x.ceiling - 1) - 1).toNat = (-x.ceiling).toNat := by omega
  have hneg : x.ceiling - 1 < 0 := by omega
  rw [Layout.Positional] at h
  simp only [Layout.unsigned, lead_eq, if_pos h, if_pos hneg, hzeros, List.cons_append,
    List.nil_append]

theorem unsigned_in_place (h : layout.Positional x) (hlead : 0 < x.ceiling) :
    layout.unsigned x =
      ((digitChars x.digits).take x.ceiling.toNat ++
        List.replicate (x.ceiling.toNat - (digitChars x.digits).length) '0') ++
      '.' :: (if ((digitChars x.digits).drop x.ceiling.toNat).isEmpty then ['0']
        else (digitChars x.digits).drop x.ceiling.toNat) := by
  have hneg : ¬ x.ceiling - 1 < 0 := by omega
  rw [Layout.Positional] at h
  simp only [Layout.unsigned, lead_eq, if_pos h, if_neg hneg, sub_add_cancel]

theorem unsigned_with_exponent (h : ¬ layout.Positional x) :
    layout.unsigned x =
      ((digitChars x.digits).take 1 ++
        (if ((digitChars x.digits).drop 1).isEmpty then []
          else '.' :: (digitChars x.digits).drop 1)) ++
      'e' :: layout.exponentChars (x.ceiling - 1) := by
  rw [Layout.Positional] at h
  simp only [Layout.unsigned, lead_eq, if_neg h, Layout.exponentChars]

theorem length_digitChars_pos (n : Nat) : 0 < (digitChars n).length := Nat.length_toDigits_pos

theorem allDigits_take (n k : Nat) : AllDigits ((digitChars n).take k) :=
  fun c hc => allDigits_digitChars n c (List.mem_of_mem_take hc)

theorem allDigits_drop (n k : Nat) : AllDigits ((digitChars n).drop k) :=
  fun c hc => allDigits_digitChars n c (List.mem_of_mem_drop hc)

theorem ceiling_eq (x : Decimal) : x.ceiling = (digitChars x.digits).length + x.exponent := rfl

theorem textValue_below_one (h : layout.Positional x) (hlead : x.ceiling ≤ 0) :
    textValue (layout.unsigned x) = x.value := by
  have hzeros := allDigits_replicate_zero (-x.ceiling).toNat
  have hdigits := allDigits_digitChars x.digits
  have hexp : -((List.replicate (-x.ceiling).toNat '0' ++ digitChars x.digits).length : Int) =
      x.exponent := by
    rw [List.length_append, List.length_replicate]
    have := ceiling_eq x
    omega
  rw [unsigned_below_one h hlead, textValue_point allDigits_zero (hzeros.append hdigits), hexp,
    digitsValue_append, digitsValue_append, digitsValue_zero, digitsValue_replicate_zero,
    digitsValue_digitChars, Nat.zero_mul, Nat.zero_mul, Nat.zero_add, Nat.zero_add, value]

theorem textValue_in_place (h : layout.Positional x) (hlead : 0 < x.ceiling) :
    textValue (layout.unsigned x) = x.value := by
  have hwhole : AllDigits ((digitChars x.digits).take x.ceiling.toNat ++
      List.replicate (x.ceiling.toNat - (digitChars x.digits).length) '0') :=
    (allDigits_take _ _).append (allDigits_replicate_zero _)
  have hceiling := ceiling_eq x
  rw [unsigned_in_place h hlead]
  by_cases hshort : (digitChars x.digits).length ≤ x.ceiling.toNat
  · -- All digits stand in front of the point, with zeros behind them.
    obtain ⟨k, hk⟩ : ∃ k : Nat, x.exponent = k := ⟨x.exponent.toNat, by omega⟩
    have hzeros : x.ceiling.toNat - (digitChars x.digits).length = k := by omega
    rw [hzeros] at hwhole
    rw [List.take_of_length_le hshort] at hwhole ⊢
    rw [hzeros, List.drop_of_length_le hshort, List.isEmpty_nil, if_pos rfl,
      textValue_point hwhole allDigits_zero, digitsValue_append, digitsValue_append,
      digitsValue_replicate_zero, digitsValue_digitChars, digitsValue_zero, value, hk,
      List.length_replicate, List.length_singleton, zpow_neg, zpow_natCast, zpow_natCast]
    push_cast
    field_simp
    ring
  · -- The point stands between the digits.
    have hne : ((digitChars x.digits).drop x.ceiling.toNat).isEmpty = false := by
      rw [List.isEmpty_eq_false_iff, ← List.length_pos_iff, List.length_drop]
      omega
    have hzeros : x.ceiling.toNat - (digitChars x.digits).length = 0 := by omega
    have hexp : -(((digitChars x.digits).drop x.ceiling.toNat).length : Int) = x.exponent := by
      rw [List.length_drop]
      omega
    rw [hzeros, List.replicate_zero, List.append_nil] at hwhole ⊢
    rw [hne, if_neg Bool.false_ne_true, textValue_point hwhole (allDigits_drop _ _), hexp,
      List.take_append_drop, digitsValue_digitChars, value]

theorem textValue_with_exponent (hsign : layout.Signed) (h : ¬ layout.Positional x) :
    textValue (layout.unsigned x) = x.value := by
  have hlength := length_digitChars_pos x.digits
  have hceiling := ceiling_eq x
  rw [unsigned_with_exponent h]
  by_cases hone : (digitChars x.digits).length ≤ 1
  · have hexp : x.ceiling - 1 = x.exponent := by omega
    rw [List.drop_of_length_le hone, List.isEmpty_nil, if_pos rfl, List.append_nil,
      List.take_of_length_le hone, textValue_exponent (allDigits_digitChars _),
      exponentValue_exponentChars hsign, digitsValue_digitChars, hexp, value]
  · have hne : ((digitChars x.digits).drop 1).isEmpty = false := by
      rw [List.isEmpty_eq_false_iff, ← List.length_pos_iff, List.length_drop]
      omega
    have hexp : x.ceiling - 1 - (((digitChars x.digits).drop 1).length : Int) = x.exponent := by
      rw [List.length_drop]
      omega
    rw [hne, if_neg Bool.false_ne_true,
      textValue_point_exponent (allDigits_take _ _) (allDigits_drop _ _),
      exponentValue_exponentChars hsign, hexp, List.take_append_drop, digitsValue_digitChars,
      value]

/-- The text of a decimal number writes its value. -/
theorem textValue_unsigned (hsign : layout.Signed) (x : Decimal) :
    textValue (layout.unsigned x) = x.value := by
  by_cases h : layout.Positional x
  · rcases le_or_gt x.ceiling 0 with hlead | hlead
    · exact textValue_below_one h hlead
    · exact textValue_in_place h hlead
  · exact textValue_with_exponent hsign h

end Unsigned

/-- The characters that the texts of numbers consist of. -/
def isNumberChar (c : Char) : Bool :=
  c.isDigit || c == '-' || c == '+' || c == '.' || c == 'e'

theorem AllDigits.isNumberChar {s : List Char} (h : AllDigits s) :
    ∀ c ∈ s, isNumberChar c = true := by
  intro c hc
  simp [Decimal.isNumberChar, h c hc]

section Characters

variable {layout : Layout}

theorem isNumberChar_exponentChars (hsign : layout.Signed) (e : Int) :
    ∀ c ∈ layout.exponentChars e, isNumberChar c = true := by
  have hdigits := (allDigits_digitChars e.natAbs).isNumberChar
  unfold Layout.exponentChars
  split
  · exact List.forall_mem_cons.mpr ⟨rfl, hdigits⟩
  · rcases hsign with h | h
    · rwa [h]
    · rw [h]
      exact List.forall_mem_cons.mpr ⟨rfl, hdigits⟩

theorem isNumberChar_unsigned (hsign : layout.Signed) (x : Decimal) :
    ∀ c ∈ layout.unsigned x, isNumberChar c = true := by
  have hdrop (k : Nat) := (allDigits_drop x.digits k).isNumberChar
  have htake (k : Nat) := (allDigits_take x.digits k).isNumberChar
  have hzeros (k : Nat) := (allDigits_replicate_zero k).isNumberChar
  have hpoint : isNumberChar '.' = true := rfl
  by_cases h : layout.Positional x
  · rcases le_or_gt x.ceiling 0 with hlead | hlead
    · rw [unsigned_below_one h hlead]
      have hdigits := (allDigits_digitChars x.digits).isNumberChar
      exact List.forall_mem_cons.mpr ⟨rfl, List.forall_mem_cons.mpr
        ⟨hpoint, List.forall_mem_append.mpr ⟨hzeros _, hdigits⟩⟩⟩
    · rw [unsigned_in_place h hlead]
      refine List.forall_mem_append.mpr ⟨List.forall_mem_append.mpr ⟨htake _, hzeros _⟩,
        List.forall_mem_cons.mpr ⟨hpoint, ?_⟩⟩
      split
      · exact hzeros 1
      · exact hdrop _
  · rw [unsigned_with_exponent h]
    refine List.forall_mem_append.mpr ⟨List.forall_mem_append.mpr ⟨htake _, ?_⟩,
      List.forall_mem_cons.mpr ⟨rfl, isNumberChar_exponentChars hsign _⟩⟩
    split
    · exact List.forall_mem_nil _
    · exact List.forall_mem_cons.mpr ⟨hpoint, hdrop _⟩

/-- The text of a decimal number is no text of a whole number. -/
theorem mark_mem_unsigned (x : Decimal) :
    '.' ∈ layout.unsigned x ∨ 'e' ∈ layout.unsigned x := by
  by_cases h : layout.Positional x
  · left
    rcases le_or_gt x.ceiling 0 with hlead | hlead
    · rw [unsigned_below_one h hlead]
      exact List.mem_append_right _ List.mem_cons_self
    · rw [unsigned_in_place h hlead]
      exact List.mem_append_right _ List.mem_cons_self
  · right
    rw [unsigned_with_exponent h]
    exact List.mem_append_right _ List.mem_cons_self

theorem take_digitChars_eq_cons (n : Nat) {k : Nat} (hk : 0 < k) :
    ∃ c rest, (digitChars n).take k = c :: rest ∧ c.isDigit = true := by
  have hne : (digitChars n).take k ≠ [] := by
    rw [← List.length_pos_iff, List.length_take]
    exact Nat.lt_min.mpr ⟨hk, length_digitChars_pos n⟩
  obtain ⟨c, rest, h⟩ := List.exists_cons_of_ne_nil hne
  exact ⟨c, rest, h, allDigits_take n k c (h ▸ List.mem_cons_self)⟩

/-- The text of a decimal number begins with a digit. -/
theorem unsigned_eq_cons (x : Decimal) :
    ∃ c rest, layout.unsigned x = c :: rest ∧ c.isDigit = true := by
  by_cases h : layout.Positional x
  · rcases le_or_gt x.ceiling 0 with hlead | hlead
    · rw [unsigned_below_one h hlead]
      exact ⟨_, _, rfl, rfl⟩
    · obtain ⟨c, rest, htake, hc⟩ := take_digitChars_eq_cons x.digits
        (k := x.ceiling.toNat) (by omega)
      rw [unsigned_in_place h hlead, htake]
      exact ⟨_, _, rfl, hc⟩
  · obtain ⟨c, rest, htake, hc⟩ := take_digitChars_eq_cons x.digits Nat.one_pos
    rw [unsigned_with_exponent h, htake]
    exact ⟨_, _, rfl, hc⟩

end Characters

section Write

variable {layout : Layout} {c d : Double}

/-- How a layout writes the absolute value of a double. -/
def Layout.absolute (layout : Layout) (d : Double) : List Char :=
  if d.magnitude = 0 then ['0', '.', '0'] else layout.unsigned (shortest d)

theorem write_eq (layout : Layout) (d : Double) :
    layout.write d =
      if d.negative then '-' :: layout.absolute d else layout.absolute d := rfl

theorem absolute_eq_cons (layout : Layout) (d : Double) :
    ∃ c rest, layout.absolute d = c :: rest ∧ c.isDigit = true := by
  unfold Layout.absolute
  split
  · exact ⟨_, _, rfl, rfl⟩
  · exact unsigned_eq_cons _

theorem isNumberChar_write (hsign : layout.Signed) (d : Double) :
    ∀ c ∈ layout.write d, isNumberChar c = true := by
  have habsolute : ∀ c ∈ layout.absolute d, isNumberChar c = true := by
    unfold Layout.absolute
    split
    · simp [isNumberChar]
    · exact isNumberChar_unsigned hsign _
  rw [write_eq]
  split
  · exact List.forall_mem_cons.mpr ⟨rfl, habsolute⟩
  · exact habsolute

theorem mark_mem_write (layout : Layout) (d : Double) :
    '.' ∈ layout.write d ∨ 'e' ∈ layout.write d := by
  have habsolute : '.' ∈ layout.absolute d ∨ 'e' ∈ layout.absolute d := by
    unfold Layout.absolute
    split
    · exact Or.inl (by decide)
    · exact mark_mem_unsigned _
  rw [write_eq]
  split
  · exact habsolute.imp (List.mem_cons_of_mem _) (List.mem_cons_of_mem _)
  · exact habsolute

theorem textValue_absolute (hsign : layout.Signed) (d : Double) :
    textValue (layout.absolute d) = if d.magnitude = 0 then 0 else (shortest d).value := by
  unfold Layout.absolute
  split
  · refine (textValue_point allDigits_zero allDigits_zero).trans ?_
    rw [digitsValue_append, digitsValue_zero, Nat.zero_mul, Nat.cast_zero, zero_mul]
  · exact textValue_unsigned hsign _

/-- The texts of doubles of different signs are different. -/
theorem negative_eq_of_write_eq (h : layout.write c = layout.write d) :
    c.negative = d.negative := by
  obtain ⟨a, as, hc, ha⟩ := absolute_eq_cons layout c
  obtain ⟨b, bs, hd, hb⟩ := absolute_eq_cons layout d
  rw [write_eq, write_eq, hc, hd] at h
  cases hcn : c.negative <;> cases hdn : d.negative
  · rfl
  · rw [hcn, hdn, if_neg Bool.false_ne_true, if_pos rfl] at h
    rw [(List.cons.inj h).1] at ha
    exact absurd ha (by decide)
  · rw [hcn, hdn, if_pos rfl, if_neg Bool.false_ne_true] at h
    rw [← (List.cons.inj h).1] at hb
    exact absurd hb (by decide)
  · rfl

/-- The text of a finite double determines the double. -/
theorem eq_of_write_eq (hsign : layout.Signed) (hc : c.isFinite = true) (hd : d.isFinite = true)
    (h : layout.write c = layout.write d) : c = d := by
  have hnegative := negative_eq_of_write_eq h
  have habsolute : layout.absolute c = layout.absolute d := by
    rw [write_eq, write_eq, hnegative] at h
    cases hdn : d.negative
    · rwa [hdn, if_neg Bool.false_ne_true, if_neg Bool.false_ne_true] at h
    · rw [hdn, if_pos rfl, if_pos rfl] at h
      exact (List.cons.inj h).2
  have hvalue := congrArg textValue habsolute
  rw [textValue_absolute hsign, textValue_absolute hsign] at hvalue
  have hpos {e : Double} (he : e.isFinite = true) (h₀ : e.magnitude ≠ 0) :
      0 < (shortest e).value :=
    value_pos_iff.mpr (shortest_digits_ne_zero he h₀)
  by_cases hc₀ : c.magnitude = 0 <;> by_cases hd₀ : d.magnitude = 0
  · obtain ⟨cn, cm, hcm⟩ := c
    obtain ⟨dn, dm, hdm⟩ := d
    simp only at hnegative hc₀ hd₀
    subst hnegative hc₀ hd₀
    rfl
  · rw [if_pos hc₀, if_neg hd₀] at hvalue
    exact absurd hvalue (hpos hd hd₀).ne
  · rw [if_neg hc₀, if_pos hd₀] at hvalue
    exact absurd hvalue (hpos hc hc₀).ne'
  · rw [if_neg hc₀, if_neg hd₀] at hvalue
    exact eq_of_shortest_value hc hd hc₀ hd₀ hnegative hvalue

end Write

end ApiScreens.Decimal
