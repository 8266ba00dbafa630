import ApiScreens.Proofs.Json.NumberText
import ApiScreens.Proofs.Json.StringText
import ApiScreens.Proofs.Json.Tree

/-!
# Compact texts of JSON values

A value and the text behind its compact text can be told from their joined text, if that text does
not go on with a character of a number. So the compact text determines the value, and the canonical
text of a tree determines the tree. A compact text holds no control character, so it is one line.
-/

namespace ApiScreens.Json

open Number (Closing)

/-- The first character of the text of a value, with one character standing for all numbers. -/
def opening : Json → Char
  | null => 'n'
  | bool true => 't'
  | bool false => 'f'
  | number _ => '0'
  | string _ => '"'
  | array _ => '['
  | object _ => '\x7b'

/-- The character that stands for the characters with which numbers begin, and any other one. -/
def leading (c : Char) : Char := if c.isDigit ∨ c = '-' then '0' else c

theorem leading_head_writeCompact (v : Json) (rest : List Char) :
    (v.writeCompact rest).head?.map leading = some v.opening := by
  cases v with
  | null => rfl
  | bool b => cases b <;> rfl
  | number n =>
      obtain ⟨c, tail, h, hc⟩ := n.chars_eq_cons
      rw [writeCompact, h, List.cons_append, List.head?_cons, Option.map_some, leading, if_pos hc]
      rfl
  | string s => rfl
  | array items => rfl
  | object members => rfl

theorem opening_eq {v w : Json} {rest rest' : List Char}
    (h : v.writeCompact rest = w.writeCompact rest') : v.opening = w.opening := by
  refine Option.some.inj ?_
  rw [← leading_head_writeCompact v rest, h, leading_head_writeCompact]

theorem eq_bool_of_opening {v : Json} {b : Bool} (h : v.opening = (bool b).opening) :
    v = bool b := by
  cases v with
  | bool c => cases b <;> cases c <;> simp [opening] at h ⊢
  | _ => cases b <;> simp [opening] at h

theorem writeCompact_ne_cons {c : Char} (v : Json) (rest rest' : List Char)
    (hc : leading c ≠ v.opening) : v.writeCompact rest ≠ c :: rest' := by
  intro h
  have hopening := leading_head_writeCompact v rest
  rw [h] at hopening
  exact hc (Option.some.inj hopening)

theorem closing_cons {c : Char} (h : Decimal.isNumberChar c = false) (rest : List Char) :
    Closing (c :: rest) := by
  rintro _ ⟨rfl⟩
  exact h

/-- Different values have different texts, whatever stands behind them. -/
def Readable (v : Json) : Prop :=
  ∀ ⦃w : Json⦄ ⦃rest rest' : List Char⦄, Closing rest → Closing rest' →
    v.writeCompact rest = w.writeCompact rest' → v = w ∧ rest = rest'

section Items

/-- The text behind an item. -/
def behindItem : List Json → List Char → List Char
  | [], rest => ']' :: rest
  | items, rest => ',' :: writeItems items (']' :: rest)

theorem writeItems_cons (v : Json) (items : List Json) (rest : List Char) :
    writeItems (v :: items) (']' :: rest) = v.writeCompact (behindItem items rest) := by
  cases items <;> rfl

theorem closing_behindItem (items : List Json) (rest : List Char) :
    Closing (behindItem items rest) := by
  cases items <;> exact closing_cons rfl _

/-- The texts behind two items agree only if both items are the last or neither is. -/
theorem writeItems_of_behindItem {items items' : List Json} {rest rest' : List Char}
    (h : behindItem items rest = behindItem items' rest') :
    writeItems items (']' :: rest) = writeItems items' (']' :: rest') := by
  cases items with
  | nil =>
      cases items' with
      | nil => exact h
      | cons w items' => exact absurd (List.cons.inj h).1 (by decide)
  | cons v items =>
      cases items' with
      | nil => exact absurd (List.cons.inj h).1 (by decide)
      | cons w items' => exact (List.cons.inj h).2

theorem opening_ne_bracket (v : Json) : leading ']' ≠ v.opening := by
  rcases v with _ | (_ | _) | _ | _ | _ | _ <;> simp [opening, leading]

theorem writeItems_injective {items items' : List Json} {rest rest' : List Char}
    (hread : ∀ v ∈ items, Readable v)
    (h : writeItems items (']' :: rest) = writeItems items' (']' :: rest')) :
    items = items' ∧ rest = rest' := by
  induction items generalizing items' with
  | nil =>
      cases items' with
      | nil => exact ⟨rfl, (List.cons.inj h).2⟩
      | cons w items' =>
          rw [writeItems_cons] at h
          exact absurd h.symm (writeCompact_ne_cons w _ _ (opening_ne_bracket w))
  | cons v items ih =>
      cases items' with
      | nil =>
          rw [writeItems_cons] at h
          exact absurd h (writeCompact_ne_cons v _ _ (opening_ne_bracket v))
      | cons w items' =>
          rw [writeItems_cons, writeItems_cons] at h
          obtain ⟨rfl, hbehind⟩ := hread v List.mem_cons_self (closing_behindItem items rest)
            (closing_behindItem items' rest') h
          obtain ⟨rfl, hrest⟩ := ih (fun u hu => hread u (List.mem_cons_of_mem _ hu))
            (writeItems_of_behindItem hbehind)
          exact ⟨rfl, hrest⟩

end Items

section MemberTexts

/-- The text behind a member. -/
def behindMember : Members → List Char → List Char
  | [], rest => '\x7d' :: rest
  | members, rest => ',' :: writeMembers members ('\x7d' :: rest)

theorem writeMembers_cons (m : String × Json) (members : Members) (rest : List Char) :
    writeMembers (m :: members) ('\x7d' :: rest) =
      stringChars m.1 ++ ':' :: m.2.writeCompact (behindMember members rest) := by
  cases members <;> rfl

theorem closing_behindMember (members : Members) (rest : List Char) :
    Closing (behindMember members rest) := by
  cases members <;> exact closing_cons rfl _

theorem writeMembers_of_behindMember {members members' : Members} {rest rest' : List Char}
    (h : behindMember members rest = behindMember members' rest') :
    writeMembers members ('\x7d' :: rest) = writeMembers members' ('\x7d' :: rest') := by
  cases members with
  | nil =>
      cases members' with
      | nil => exact h
      | cons m' members' => exact absurd (List.cons.inj h).1 (by decide)
  | cons m members =>
      cases members' with
      | nil => exact absurd (List.cons.inj h).1 (by decide)
      | cons m' members' => exact (List.cons.inj h).2

theorem stringChars_append_ne_brace (s : String) (rest rest' : List Char) :
    stringChars s ++ rest ≠ '\x7d' :: rest' := by
  intro h
  exact absurd (List.cons.inj h).1 (by decide)

theorem writeMembers_injective {members members' : Members} {rest rest' : List Char}
    (hread : ∀ m ∈ members, Readable m.2)
    (h : writeMembers members ('\x7d' :: rest) = writeMembers members' ('\x7d' :: rest')) :
    members = members' ∧ rest = rest' := by
  induction members generalizing members' with
  | nil =>
      cases members' with
      | nil => exact ⟨rfl, (List.cons.inj h).2⟩
      | cons m' members' =>
          rw [writeMembers_cons] at h
          exact absurd h.symm (stringChars_append_ne_brace _ _ _)
  | cons m members ih =>
      cases members' with
      | nil =>
          rw [writeMembers_cons] at h
          exact absurd h (stringChars_append_ne_brace _ _ _)
      | cons m' members' =>
          rw [writeMembers_cons, writeMembers_cons] at h
          obtain ⟨hkey, htail⟩ := stringChars_append_injective h
          obtain ⟨hvalue, hbehind⟩ := hread m List.mem_cons_self (closing_behindMember members rest)
            (closing_behindMember members' rest') (List.cons.inj htail).2
          obtain rfl : m = m' := Prod.ext hkey hvalue
          obtain ⟨rfl, hrest⟩ := ih (fun u hu => hread u (List.mem_cons_of_mem _ hu))
            (writeMembers_of_behindMember hbehind)
          exact ⟨rfl, hrest⟩

end MemberTexts

/-- A value and the text behind it can be told from their joined text. -/
theorem readable (v : Json) : Readable v := by
  induction v with
  | null =>
      intro w rest rest' _ _ h
      cases w with
      | null => exact ⟨rfl, by simpa [writeCompact] using h⟩
      | bool b => exact absurd (eq_bool_of_opening (opening_eq h)) (by simp)
      | _ => exact absurd (opening_eq h) (by simp [opening])
  | bool b =>
      intro w rest rest' _ _ h
      obtain rfl := eq_bool_of_opening (opening_eq h).symm
      exact ⟨rfl, by cases b <;> simpa [writeCompact] using h⟩
  | number m =>
      intro w rest rest' hrest hrest' h
      cases w with
      | number n =>
          obtain ⟨rfl, hrests⟩ := Number.chars_append_injective hrest hrest' h
          exact ⟨rfl, hrests⟩
      | bool b => exact absurd (eq_bool_of_opening (opening_eq h)) (by simp)
      | _ => exact absurd (opening_eq h) (by simp [opening])
  | string s =>
      intro w rest rest' _ _ h
      cases w with
      | string t =>
          obtain ⟨rfl, hrests⟩ := stringChars_append_injective h
          exact ⟨rfl, hrests⟩
      | bool b => exact absurd (eq_bool_of_opening (opening_eq h)) (by simp)
      | _ => exact absurd (opening_eq h) (by simp [opening])
  | array items ih =>
      intro w rest rest' _ _ h
      cases w with
      | array items' =>
          obtain ⟨rfl, hrests⟩ := writeItems_injective ih (List.cons.inj h).2
          exact ⟨rfl, hrests⟩
      | bool b => exact absurd (eq_bool_of_opening (opening_eq h)) (by simp)
      | _ => exact absurd (opening_eq h) (by simp [opening])
  | object members ih =>
      intro w rest rest' _ _ h
      cases w with
      | object members' =>
          obtain ⟨rfl, hrests⟩ := writeMembers_injective ih (List.cons.inj h).2
          exact ⟨rfl, hrests⟩
      | bool b => exact absurd (eq_bool_of_opening (opening_eq h)) (by simp)
      | _ => exact absurd (opening_eq h) (by simp [opening])

/-- The compact text determines the value. -/
theorem compact_inj {v w : Json} (h : v.compact = w.compact) : v = w :=
  (@readable v w [] [] nofun nofun (String.ofList_injective h)).1

/-- The canonical text determines a tree. -/
theorem IsTree.eq_of_canonicalText {v w : Json} (hv : v.IsTree) (hw : w.IsTree)
    (h : v.canonicalText = w.canonicalText) : v = w := by
  rw [canonicalText, canonicalText, hv.sorted_eq, hw.sorted_eq] at h
  exact compact_inj h

section Behind

variable {rest : List Char}

theorem suffix_writeItems {items : List Json}
    (h : ∀ v ∈ items, ∀ rest, rest <:+ v.writeCompact rest) : rest <:+ writeItems items rest := by
  induction items with
  | nil => exact List.suffix_refl rest
  | cons v items ih =>
      obtain ⟨hv, hitems⟩ := List.forall_mem_cons.mp h
      cases items with
      | nil => exact hv rest
      | cons w items => exact ((ih hitems).trans (List.suffix_cons ',' _)).trans (hv _)

theorem suffix_writeMembers {members : Members}
    (h : ∀ m ∈ members, ∀ rest, rest <:+ m.2.writeCompact rest) :
    rest <:+ writeMembers members rest := by
  induction members with
  | nil => exact List.suffix_refl rest
  | cons m members ih =>
      obtain ⟨hm, hmembers⟩ := List.forall_mem_cons.mp h
      have hkey (cs) : cs <:+ stringChars m.1 ++ ':' :: cs :=
        (List.suffix_cons ':' cs).trans (List.suffix_append _ _)
      cases members with
      | nil => exact (hm rest).trans (hkey _)
      | cons m' members =>
          exact (((ih hmembers).trans (List.suffix_cons ',' _)).trans (hm _)).trans (hkey _)

/-- The text in front of which a value is written stays behind it. -/
theorem suffix_writeCompact (v : Json) (rest : List Char) : rest <:+ v.writeCompact rest := by
  induction v generalizing rest with
  | null => exact List.suffix_append _ rest
  | bool b => cases b <;> exact List.suffix_append _ rest
  | number n => exact List.suffix_append _ rest
  | string s => exact List.suffix_append _ rest
  | array items ih =>
      have hitems : ']' :: rest <:+ writeItems items (']' :: rest) := suffix_writeItems ih
      exact ((List.suffix_cons ']' rest).trans hitems).trans (List.suffix_cons '[' _)
  | object members ih =>
      have hmembers : '\x7d' :: rest <:+ writeMembers members ('\x7d' :: rest) :=
        suffix_writeMembers ih
      exact ((List.suffix_cons '\x7d' rest).trans hmembers).trans (List.suffix_cons '\x7b' _)

end Behind

section Controls

/-- The characters that are no control characters. -/
abbrev IsPrinted (c : Char) : Prop := 0x20 ≤ c.toNat

theorem isPrinted_hexDigit : ∀ n < 0x10, IsPrinted (hexDigit n) := by decide

theorem isPrinted_escapedChar (c : Char) : ∀ d ∈ escapedChar c, IsPrinted d := by
  unfold escapedChar
  split
  case h_8 =>
    split
    · simp only [List.forall_mem_cons]
      exact ⟨by decide, by decide, by decide, by decide, isPrinted_hexDigit _ (by omega),
        isPrinted_hexDigit _ (by omega), List.forall_mem_nil _⟩
    · rename_i h
      simpa using h
  all_goals
    rw [List.forall_mem_cons, List.forall_mem_singleton]
    decide

theorem isPrinted_stringChars (s : String) : ∀ c ∈ stringChars s, IsPrinted c := by
  have hquote : IsPrinted '"' := by decide
  have hchars : ∀ c ∈ s.toList.flatMap escapedChar, IsPrinted c := by
    intro d hd
    obtain ⟨c, -, hc⟩ := List.mem_flatMap.mp hd
    exact isPrinted_escapedChar c d hc
  rw [stringChars, List.forall_mem_append, List.forall_mem_cons]
  exact ⟨⟨hquote, hchars⟩, List.forall_mem_singleton.mpr hquote⟩

theorem isPrinted_chars (n : Number) : ∀ c ∈ n.chars, IsPrinted c := by
  intro c hc
  have hchar := n.isNumberChar_chars c hc
  by_cases hdigit : c.isDigit = true
  · have hzero : 48 ≤ c.toNat := by
      simp only [Char.isDigit, Bool.and_eq_true, decide_eq_true_eq] at hdigit
      exact hdigit.1
    omega
  · simp only [Decimal.isNumberChar, hdigit, Bool.false_or, Bool.or_eq_true, beq_iff_eq] at hchar
    rcases hchar with ((rfl | rfl) | rfl) | rfl <;> decide

theorem forall_printed_writeItems_iff {items : List Json} {rest : List Char}
    (h : ∀ v ∈ items, ∀ rest, (∀ c ∈ v.writeCompact rest, IsPrinted c) ↔ ∀ c ∈ rest, IsPrinted c) :
    (∀ c ∈ writeItems items rest, IsPrinted c) ↔ ∀ c ∈ rest, IsPrinted c := by
  induction items with
  | nil => rfl
  | cons v items ih =>
      obtain ⟨hv, hitems⟩ := List.forall_mem_cons.mp h
      cases items with
      | nil => exact hv rest
      | cons w items =>
          rw [writeItems, hv, List.forall_mem_cons, ih hitems]
          exact and_iff_right (by decide)

theorem forall_printed_writeMembers_iff {members : Members} {rest : List Char}
    (h : ∀ m ∈ members, ∀ rest,
      (∀ c ∈ m.2.writeCompact rest, IsPrinted c) ↔ ∀ c ∈ rest, IsPrinted c) :
    (∀ c ∈ writeMembers members rest, IsPrinted c) ↔ ∀ c ∈ rest, IsPrinted c := by
  have hkey (key : String) (behind : List Char) :
      (∀ c ∈ stringChars key ++ ':' :: behind, IsPrinted c) ↔ ∀ c ∈ behind, IsPrinted c := by
    rw [List.forall_mem_append, List.forall_mem_cons]
    exact (and_iff_right (isPrinted_stringChars key)).trans (and_iff_right (by decide))
  induction members with
  | nil => rfl
  | cons m members ih =>
      obtain ⟨hm, hmembers⟩ := List.forall_mem_cons.mp h
      cases members with
      | nil => exact (hkey m.1 _).trans (hm rest)
      | cons m' members =>
          refine (hkey m.1 _).trans ((hm _).trans ?_)
          rw [List.forall_mem_cons]
          exact (and_iff_right (by decide)).trans (ih hmembers)

/-- Writing a value without blanks adds no control character. -/
theorem forall_printed_writeCompact_iff (v : Json) (rest : List Char) :
    (∀ c ∈ v.writeCompact rest, IsPrinted c) ↔ ∀ c ∈ rest, IsPrinted c := by
  induction v generalizing rest with
  | null => simp [writeCompact]
  | bool b => cases b <;> simp [writeCompact]
  | number n =>
      rw [writeCompact, List.forall_mem_append]
      exact and_iff_right (isPrinted_chars n)
  | string s =>
      rw [writeCompact, List.forall_mem_append]
      exact and_iff_right (isPrinted_stringChars s)
  | array items ih => simp [writeCompact, forall_printed_writeItems_iff ih]
  | object members ih => simp [writeCompact, forall_printed_writeMembers_iff ih]

/-- A compact text holds no control character. -/
theorem isPrinted_compact (v : Json) : ∀ c ∈ v.compact.toList, IsPrinted c := by
  rw [compact, String.toList_ofList, forall_printed_writeCompact_iff]
  exact List.forall_mem_nil _

/-- A compact text is one line. -/
theorem newline_not_mem_compact (v : Json) : '\n' ∉ v.compact.toList := by
  intro h
  exact absurd (v.isPrinted_compact '\n' h) (by decide)

end Controls

end ApiScreens.Json
