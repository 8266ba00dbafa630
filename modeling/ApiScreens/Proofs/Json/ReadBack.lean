import ApiScreens.Proofs.Json.CompactText

/-!
# Reading written values

The compact text of a value is read as the value, if its nesting is within the bound and the texts
of its numbers read back. The text of an integer always does.
-/

namespace ApiScreens

namespace Decimal

theorem natOf_digitChars (n : Nat) : Json.Number.Literal.natOf (digitChars n) = n :=
  Nat.ofDigitChars_ten_toDigits

/-- The digits of a positive number do not begin with a zero. -/
theorem head?_digitChars_ne_zero {n : Nat} (h : 0 < n) :
    (digitChars n).head?.any (· != '0') = true := by
  induction n using Nat.strong_induction_on with
  | h n ih =>
      rw [digitChars, Nat.toDigits_eq_if (by decide)]
      split
      · rename_i hlt
        have hall : ∀ m < 10, 0 < m → [Nat.digitChar m].head?.any (· != '0') = true := by decide
        exact hall n hlt h
      · rw [List.head?_append_of_ne_nil _ Nat.toDigits_ne_nil]
        exact ih (n / 10) (by omega) (by omega)

end Decimal

namespace Json

open Decimal (AllDigits digitChars intChars)

/-- A text that no number goes on with. -/
def Ends (rest : List Char) : Prop := ∀ c ∈ rest.head?, Decimal.isNumberChar c = false ∧ c ≠ 'E'

/-- The text of a number is read as the number wherever it ends. -/
def Number.ReadsBack (n : Number) : Prop :=
  ∀ ⦃rest⦄, Ends rest → readNumber (n.chars ++ rest) = some (number n, rest)

section Literals

variable {rest : List Char}

theorem Ends.cons_inv {c : Char} (h : Ends (c :: rest)) :
    c.isDigit = false ∧ c ≠ '.' ∧ c ≠ 'e' ∧ c ≠ 'E' := by
  obtain ⟨hnumber, hexponent⟩ := h c rfl
  simp only [Decimal.isNumberChar, Bool.or_eq_false_iff, beq_eq_false_iff_ne] at hnumber
  obtain ⟨⟨⟨⟨hdigit, -⟩, -⟩, hpoint⟩, he⟩ := hnumber
  exact ⟨hdigit, hpoint, he, hexponent⟩

theorem Ends.head_not_digit (h : Ends rest) : ∀ c ∈ rest.head?, c.isDigit = false := by
  cases rest with
  | nil => exact nofun
  | cons c rest => exact fun _ hc => Option.mem_some.mp hc ▸ h.cons_inv.1

theorem takeWhile_isDigit {ds : List Char} (hds : AllDigits ds)
    (hrest : ∀ c ∈ rest.head?, c.isDigit = false) : (ds ++ rest).takeWhile Char.isDigit = ds := by
  rw [List.takeWhile_append_of_pos hds]
  cases rest with
  | nil => simp
  | cons c rest => simp [hrest c rfl]

theorem dropWhile_isDigit {ds : List Char} (hds : AllDigits ds)
    (hrest : ∀ c ∈ rest.head?, c.isDigit = false) : (ds ++ rest).dropWhile Char.isDigit = rest := by
  rw [List.dropWhile_append_of_pos hds]
  cases rest with
  | nil => simp
  | cons c rest => simp [hrest c rfl]

/-- How the fraction of a literal is written. -/
def fractionChars : Option (List Char) → List Char
  | none => []
  | some ds => '.' :: ds

theorem readFraction_written {fraction : Option (List Char)}
    (hfraction : ∀ ds ∈ fraction, AllDigits ds ∧ ds ≠ []) (h : Ends rest) :
    readFraction (fractionChars fraction ++ rest) = some (fraction, rest) := by
  cases fraction with
  | none =>
      cases rest with
      | nil => rfl
      | cons c rest =>
          obtain ⟨-, hpoint, -⟩ := h.cons_inv
          simp [fractionChars, readFraction, hpoint]
  | some ds =>
      obtain ⟨hds, hne⟩ := hfraction ds rfl
      simp [fractionChars, readFraction, takeWhile_isDigit hds h.head_not_digit,
        dropWhile_isDigit hds h.head_not_digit, hne]

theorem readExponent_of_ends (h : Ends rest) : readExponent rest = some (none, rest) := by
  cases rest with
  | nil => rfl
  | cons c rest =>
      obtain ⟨-, -, hlower, hupper⟩ := h.cons_inv
      simp [readExponent, hlower, hupper]

/-- A literal without an exponent is read from its parts. -/
theorem readLiteral_written (negative : Bool) {whole : List Char} {fraction : Option (List Char)}
    (hwhole : AllDigits whole) (hlead : whole = ['0'] ∨ whole.head?.any (· != '0') = true)
    (hfraction : ∀ ds ∈ fraction, AllDigits ds ∧ ds ≠ []) (h : Ends rest) :
    readLiteral ((if negative then ['-'] else []) ++ (whole ++ (fractionChars fraction ++ rest))) =
      some (⟨negative, whole, fraction, none⟩, rest) := by
  have hbehind : ∀ c ∈ (fractionChars fraction ++ rest).head?, c.isDigit = false := by
    cases fraction with
    | none => exact h.head_not_digit
    | some ds => exact fun _ hc => Option.mem_some.mp hc ▸ rfl
  have hsign : ∀ cs, whole ++ (fractionChars fraction ++ rest) ≠ '-' :: cs := by
    intro cs heq
    cases whole with
    | nil => simp at hlead
    | cons c whole =>
        obtain ⟨rfl, -⟩ := List.cons.inj heq
        exact absurd (hwhole '-' List.mem_cons_self) (by decide)
  cases negative <;>
    simp [readLiteral, takeWhile_isDigit hwhole hbehind, dropWhile_isDigit hwhole hbehind, hlead,
      readFraction_written hfraction h, readExponent_of_ends h]

theorem readLiteral_intChars (n : Int) (h : Ends rest) :
    readLiteral (intChars n ++ rest) =
      some (⟨decide (n < 0), digitChars n.natAbs, none, none⟩, rest) := by
  have hlead : digitChars n.natAbs = ['0'] ∨ (digitChars n.natAbs).head?.any (· != '0') = true := by
    rcases Nat.eq_zero_or_pos n.natAbs with hzero | hpos
    · exact Or.inl (by rw [hzero]; rfl)
    · exact Or.inr (Decimal.head?_digitChars_ne_zero hpos)
  rw [← @readLiteral_written rest (decide (n < 0)) _ none (Decimal.allDigits_digitChars _) hlead
    nofun h]
  simp only [intChars, fractionChars, decide_eq_true_eq]
  split <;> rfl

theorem Number.ofInt?_eq_some {n : Int}
    (bounds : -0x8000000000000000 ≤ n ∧ n < 0x10000000000000000) :
    ofInt? n = some (int n bounds) := dif_pos bounds

theorem Number.number?_intChars {n : Int}
    (bounds : -0x8000000000000000 ≤ n ∧ n < 0x10000000000000000) :
    Literal.number? ⟨decide (n < 0), digitChars n.natAbs, none, none⟩ = some (int n bounds) := by
  by_cases hneg : n < 0
  · have habs : -(n.natAbs : Int) = n := by omega
    have hzero : n.natAbs ≠ 0 := by omega
    simp only [Literal.number?, Decimal.natOf_digitChars, habs, hneg]
    simp [hzero, ofInt?_eq_some bounds]
  · have habs : (n.natAbs : Int) = n := by omega
    simp only [Literal.number?, Decimal.natOf_digitChars, habs, hneg]
    simp [ofInt?_eq_some bounds]

/-- The text of an integer reads back. -/
theorem Number.readsBack_int {n : Int}
    (bounds : -0x8000000000000000 ≤ n ∧ n < 0x10000000000000000) : (int n bounds).ReadsBack := by
  intro rest hrest
  rw [readNumber, chars, readLiteral_intChars n hrest]
  simp [number?_intChars bounds]

/-- The text of a number without an exponent reads back if its literal stands for the number. -/
theorem Number.readsBack_of_point {n : Number} {negative : Bool} {whole fraction : List Char}
    (hchars : n.chars = (if negative then ['-'] else []) ++ (whole ++ '.' :: fraction))
    (hwhole : AllDigits whole) (hlead : whole = ['0'] ∨ whole.head?.any (· != '0') = true)
    (hfraction : AllDigits fraction ∧ fraction ≠ [])
    (hnumber : Literal.number? ⟨negative, whole, some fraction, none⟩ = some n) :
    n.ReadsBack := by
  intro rest hrest
  have hread := readLiteral_written negative hwhole hlead
    (fun _ hds => Option.mem_some.mp hds ▸ hfraction) hrest
  have happend : n.chars ++ rest = (if negative then ['-'] else []) ++
      (whole ++ (fractionChars (some fraction) ++ rest)) := by
    simp [hchars, fractionChars]
  rw [readNumber, happend, hread]
  simp [hnumber]

end Literals

/-- The value has at most so many nested arrays and objects, and its numbers read back. -/
inductive ReadsBack : Nat → Json → Prop
  | null {depth : Nat} : ReadsBack depth .null
  | bool {depth : Nat} (b : Bool) : ReadsBack depth (.bool b)
  | number {depth : Nat} {n : Number} (h : n.ReadsBack) : ReadsBack depth (.number n)
  | string {depth : Nat} (s : String) : ReadsBack depth (.string s)
  | array {depth : Nat} {items : List Json} (h : ∀ v ∈ items, ReadsBack depth v) :
      ReadsBack (depth + 1) (.array items)
  | object {depth : Nat} {members : Members} (h : ∀ m ∈ members, ReadsBack depth m.2) :
      ReadsBack (depth + 1) (.object members)

/-- A reader takes the compact text of the value off the front of a text. -/
def TakenBy (value : List Char → Option (Json × List Char)) (v : Json) : Prop :=
  ∀ ⦃rest⦄, Ends rest → value (v.writeCompact rest) = some (v, rest)

theorem skipSpace_cons {c : Char} (h : isSpace c = false) (rest : List Char) :
    skipSpace (c :: rest) = c :: rest := by
  simp [skipSpace, h]

theorem leading_space_ne_opening (v : Json) {c : Char} (h : isSpace c = true) :
    leading c ≠ v.opening := by
  simp only [isSpace, Bool.or_eq_true, beq_iff_eq] at h
  rcases h with ((rfl | rfl) | rfl) | rfl <;> rcases v with _ | (_ | _) | _ | _ | _ | _ <;>
    simp [opening, leading]

theorem skipSpace_writeCompact (v : Json) (rest : List Char) :
    skipSpace (v.writeCompact rest) = v.writeCompact rest := by
  cases hwritten : v.writeCompact rest with
  | nil => rfl
  | cons c tail =>
      apply skipSpace_cons
      rw [Bool.eq_false_iff]
      intro hspace
      exact writeCompact_ne_cons v rest tail (leading_space_ne_opening v hspace) hwritten

theorem behindItem_cons (v : Json) (items : List Json) (rest : List Char) :
    behindItem (v :: items) rest = ',' :: v.writeCompact (behindItem items rest) := by
  rw [behindItem, writeItems_cons]
  exact List.cons_ne_nil v items

theorem behindMember_cons (m : String × Json) (members : Members) (rest : List Char) :
    behindMember (m :: members) rest =
      ',' :: (stringChars m.1 ++ ':' :: m.2.writeCompact (behindMember members rest)) := by
  rw [behindMember, writeMembers_cons]
  exact List.cons_ne_nil m members

theorem ends_behindItem (items : List Json) (rest : List Char) : Ends (behindItem items rest) := by
  cases items <;> rintro _ ⟨rfl⟩ <;> decide

theorem ends_behindMember (members : Members) (rest : List Char) :
    Ends (behindMember members rest) := by
  cases members <;> rintro _ ⟨rfl⟩ <;> decide

/-- Writing the value in front of a text does not shorten the text. -/
def Lengthens (v : Json) : Prop := ∀ rest, rest.length ≤ (v.writeCompact rest).length

theorem length_lt_behindItem {items : List Json} (h : ∀ v ∈ items, Lengthens v)
    (rest : List Char) : items.length + rest.length < (behindItem items rest).length := by
  induction items with
  | nil => simp [behindItem]
  | cons v items ih =>
      obtain ⟨hv, hitems⟩ := List.forall_mem_cons.mp h
      have hbehind := ih hitems
      have hle := hv (behindItem items rest)
      simp only [behindItem_cons, List.length_cons]
      omega

theorem length_lt_behindMember {members : Members} (h : ∀ m ∈ members, Lengthens m.2)
    (rest : List Char) : members.length + rest.length < (behindMember members rest).length := by
  induction members with
  | nil => simp [behindMember]
  | cons m members ih =>
      obtain ⟨hm, hmembers⟩ := List.forall_mem_cons.mp h
      have hbehind := ih hmembers
      have hle := hm (behindMember members rest)
      simp only [behindMember_cons, List.length_cons, List.length_append]
      omega

theorem lengthens (v : Json) : Lengthens v :=
  fun rest => (suffix_writeCompact v rest).length_le

section Containers

variable {value : List Char → Option (Json × List Char)} (rest : List Char)

/-- The items of an array are read one after the other. -/
theorem readItems_writeCompact {v : Json} {items : List Json} {n : Nat}
    (hvalue : ∀ w ∈ v :: items, TakenBy value w) (hn : items.length < n) :
    readItems value n (v.writeCompact (behindItem items rest)) = some (v :: items, rest) := by
  induction items generalizing v n with
  | nil =>
      obtain ⟨n, rfl⟩ := Nat.exists_eq_add_one_of_ne_zero (Nat.ne_zero_of_lt hn)
      have hv := hvalue v List.mem_cons_self (ends_behindItem [] rest)
      rw [readItems, skipSpace_writeCompact, hv]
      simp [behindItem, skipSpace_cons (c := ']') rfl]
  | cons w items ih =>
      obtain ⟨n, rfl⟩ := Nat.exists_eq_add_one_of_ne_zero (Nat.ne_zero_of_lt hn)
      have hv := hvalue v List.mem_cons_self (ends_behindItem (w :: items) rest)
      have hrest := ih (v := w) (n := n) (fun u hu => hvalue u (List.mem_cons_of_mem _ hu))
        (Nat.lt_of_succ_lt_succ hn)
      rw [readItems, skipSpace_writeCompact, hv]
      simp [behindItem_cons, skipSpace_cons (c := ',') rfl, hrest]

/-- A member is read with its key. -/
theorem readMember_written {m : String × Json} {tail : List Char} (hvalue : TakenBy value m.2)
    (htail : Ends tail) :
    readMember value (stringChars m.1 ++ ':' :: m.2.writeCompact tail) = some (m, tail) := by
  have hkey : stringChars m.1 ++ ':' :: m.2.writeCompact tail =
      '"' :: (m.1.toList.flatMap escapedChar ++ '"' :: ':' :: m.2.writeCompact tail) := by
    simp [stringChars]
  rw [hkey, readMember, skipSpace_cons rfl]
  simp [readString_literal, skipSpace_cons (c := ':') rfl, skipSpace_writeCompact, hvalue htail]

/-- The members of an object are read one after the other. -/
theorem readMembers_written {m : String × Json} {members : Members} {n : Nat}
    (hvalue : ∀ w ∈ m :: members, TakenBy value w.2) (hn : members.length < n) :
    readMembers value n (stringChars m.1 ++ ':' :: m.2.writeCompact (behindMember members rest)) =
      some (m :: members, rest) := by
  induction members generalizing m n with
  | nil =>
      obtain ⟨n, rfl⟩ := Nat.exists_eq_add_one_of_ne_zero (Nat.ne_zero_of_lt hn)
      have hm := readMember_written (hvalue m List.mem_cons_self) (ends_behindMember [] rest)
      rw [readMembers, hm]
      simp [behindMember, skipSpace_cons (c := '\x7d') rfl]
  | cons w members ih =>
      obtain ⟨n, rfl⟩ := Nat.exists_eq_add_one_of_ne_zero (Nat.ne_zero_of_lt hn)
      have hm := readMember_written (hvalue m List.mem_cons_self)
        (ends_behindMember (w :: members) rest)
      have hrest := ih (m := w) (n := n) (fun u hu => hvalue u (List.mem_cons_of_mem _ hu))
        (Nat.lt_of_succ_lt_succ hn)
      rw [readMembers, hm]
      simp [behindMember_cons, skipSpace_cons (c := ',') rfl, hrest]

theorem readWith_array {items : List Json} (hvalue : ∀ v ∈ items, TakenBy value v) :
    readWith value ((array items).writeCompact rest) = some (array items, rest) := by
  rw [writeCompact]
  cases items with
  | nil => simp [writeItems, readWith, skipSpace_cons (c := ']') rfl]
  | cons v items =>
      have hbracket : ∀ tail, v.writeCompact (behindItem items rest) ≠ ']' :: tail :=
        fun tail => writeCompact_ne_cons v _ _ (opening_ne_bracket v)
      -- The length of the text bounds how many items are read.
      have hlength : items.length < (v.writeCompact (behindItem items rest)).length + 1 := by
        have hbehind := length_lt_behindItem (fun w (_ : w ∈ items) => lengthens w) rest
        have hle := lengthens v (behindItem items rest)
        omega
      rw [writeItems_cons, readWith, skipSpace_writeCompact]
      simp [readItems_writeCompact rest hvalue hlength]

theorem readWith_object {members : Members} (hvalue : ∀ m ∈ members, TakenBy value m.2) :
    readWith value ((object members).writeCompact rest) = some (object members, rest) := by
  rw [writeCompact]
  cases members with
  | nil => simp [writeMembers, readWith, skipSpace_cons (c := '\x7d') rfl]
  | cons m members =>
      generalize hwritten : stringChars m.1 ++ ':' :: m.2.writeCompact (behindMember members rest) =
        text
      have hbrace : ∀ tail, text ≠ '\x7d' :: tail :=
        fun tail => hwritten ▸ stringChars_append_ne_brace _ _ tail
      have hspace : skipSpace text = text := by
        rw [← hwritten, stringChars]
        exact skipSpace_cons rfl _
      have hlength : members.length < text.length + 1 := by
        have hbehind := length_lt_behindMember (fun w (_ : w ∈ members) => lengthens w.2) rest
        have hle := lengthens m.2 (behindMember members rest)
        rw [← hwritten, List.length_append, List.length_cons]
        omega
      have hmembers := readMembers_written rest hvalue hlength
      rw [hwritten] at hmembers
      rw [writeMembers_cons, hwritten, readWith, hspace]
      simp [hmembers]

end Containers

theorem readScalar_number {n : Number} {rest : List Char} (h : n.ReadsBack) (hrest : Ends rest) :
    readScalar (n.chars ++ rest) = some (number n, rest) := by
  obtain ⟨c, tail, hchars, hc⟩ := n.chars_eq_cons
  have hread := h hrest
  rw [hchars, List.cons_append] at hread ⊢
  rw [readScalar, hread]
  all_goals
    intro _ heq
    obtain ⟨rfl, -⟩ := List.cons.inj heq
    simp at hc

/-- A value that is no array and no object is read as a scalar. -/
theorem readValue_eq_readScalar {v : Json} (hbracket : v.opening ≠ '[')
    (hbrace : v.opening ≠ '\x7b') (depth : Nat) (rest : List Char) :
    readValue depth (v.writeCompact rest) = readScalar (v.writeCompact rest) := by
  cases depth with
  | zero => rfl
  | succ depth =>
      rw [readValue, readWith]
      · exact fun tail => writeCompact_ne_cons v rest tail hbracket.symm
      · exact fun tail => writeCompact_ne_cons v rest tail hbrace.symm

/-- A value within the bounds is taken off the front of a text. -/
theorem ReadsBack.takenBy {depth : Nat} {v : Json} (h : ReadsBack depth v) :
    TakenBy (readValue depth) v := by
  induction h with
  | null =>
      intro rest _
      rw [readValue_eq_readScalar (by decide) (by decide)]
      rfl
  | bool b =>
      intro rest _
      cases b <;> exact readValue_eq_readScalar (by decide) (by decide) _ _
  | number hn =>
      intro rest hrest
      rw [readValue_eq_readScalar (by simp [opening]) (by simp [opening]), writeCompact]
      exact readScalar_number hn hrest
  | string s =>
      intro rest _
      rw [readValue_eq_readScalar (by simp [opening]) (by simp [opening]), writeCompact]
      simp [stringChars, readScalar, readString_literal]
  | array _ ih => exact fun rest _ => readWith_array rest ih
  | object _ ih => exact fun rest _ => readWith_object rest ih

/-- The compact text of a value is read as the value with its members sorted. -/
theorem read?_compact {v : Json} (h : ReadsBack maxDepth v) : read? v.compact = some v.sorted := by
  have htaken : readValue maxDepth (v.writeCompact []) = some (v, []) := h.takenBy nofun
  simp [read?, readWritten?, compact, skipSpace_writeCompact, htaken]
  rfl

end Json

end ApiScreens
