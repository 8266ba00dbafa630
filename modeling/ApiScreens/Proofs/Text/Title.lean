import ApiScreens.Proofs.Text.Slug
import ApiScreens.Text.Blank
import Mathlib.Logic.Basic

/-!
# Visible titles

Cutting a name into words loses the separators and nothing else, and a capital at the front of a
word is blank only if the character is. So a title is visible exactly if the name at the end of its
path has a character that is neither a separator nor blank.
-/

namespace ApiScreens.Text

/-- Some character is not blank. -/
abbrev Visible (cs : List Char) : Prop := ∃ c ∈ cs, isBlank c = false

theorem visible_append {cs ds : List Char} : Visible (cs ++ ds) ↔ Visible cs ∨ Visible ds := by
  simp only [Visible, List.mem_append, or_and_right, exists_or]

theorem visible_flatten {words : List (List Char)} :
    Visible words.flatten ↔ ∃ w ∈ words, Visible w := by
  simp only [Visible, List.mem_flatten]
  exact ⟨fun ⟨c, ⟨w, hw, hc⟩, hblank⟩ => ⟨w, hw, c, hc, hblank⟩,
    fun ⟨w, hw, c, hc, hblank⟩ => ⟨c, ⟨w, hw, hc⟩, hblank⟩⟩

section Capitals

/-- The code points of blank characters. -/
def blankPoints : List Nat :=
  List.range' 0x9 5 ++ [0x20, 0x85, 0xA0, 0x1680] ++ List.range' 0x2000 11 ++
    [0x2028, 0x2029, 0x202F, 0x205F, 0x3000]

theorem isBlank_iff {c : Char} : isBlank c = true ↔ c.toNat ∈ blankPoints := by
  have hcontrols (n : Nat) : n ∈ List.range' 0x9 5 ↔ 0x9 ≤ n ∧ n ≤ 0xD := by
    rw [List.mem_range'_1]
    omega
  have hspaces (n : Nat) : n ∈ List.range' 0x2000 11 ↔ 0x2000 ≤ n ∧ n ≤ 0x200A := by
    rw [List.mem_range'_1]
    omega
  simp only [isBlank, blankPoints, List.mem_append, hcontrols, hspaces]
  simp [or_assoc]

theorem isBlank_asciiUppercase {c : Char} (h : c.toNat < 0x80) :
    isBlank (asciiUppercase c) = isBlank c := by
  rw [Bool.eq_iff_iff]
  simp only [isBlank, toNat_asciiUppercase]
  split
  · simp only [Bool.or_eq_true, Bool.and_eq_true, decide_eq_true_eq, beq_iff_eq]
    omega
  · rfl

/-- No shift of the table leads to a blank character or starts at one. -/
theorem uppercaseShifts_avoid_blank : ∀ s ∈ uppercaseShifts, ∀ n ∈ blankPoints,
    s.run.holds n = false ∧ s.run.holds ((n : Int) - s.distance).toNat = false := by
  decide +kernel

theorem uppercaseExpansions_avoid_blank : ∀ e ∈ uppercaseExpansions,
    e.1 ∉ blankPoints ∧ ∃ n ∈ e.2, isBlank (Char.ofNat n) = false := by
  decide +kernel

theorem isBlank_of_target? {c d : Char} (h : Shift.target? uppercaseShifts c = some d) :
    isBlank c = false ∧ isBlank d = false := by
  obtain ⟨s, hs, rfl⟩ := Option.map_eq_some_iff.mp h
  have havoid := uppercaseShifts_avoid_blank s (List.mem_of_find?_eq_some hs)
  have hholds := List.find?_some hs
  simp only [Bool.eq_false_iff, ne_eq, isBlank_iff]
  constructor
  · intro hblank
    exact absurd hholds (Bool.eq_false_iff.mp (havoid _ hblank).1)
  · intro hblank
    have hnonzero : (0 : Nat) ∉ blankPoints := by decide
    rcases toNat_ofNat (Int.ofNat c.toNat + s.distance).toNat with heq | heq
    · have hpos : (Int.ofNat c.toNat + s.distance).toNat ≠ 0 := by
        rw [← heq]
        exact fun hzero => hnonzero (hzero ▸ hblank)
      -- The character that the shift starts from is as far before the one that it leads to.
      have hback : (((Char.ofNat (Int.ofNat c.toNat + s.distance).toNat).toNat : Int) -
          s.distance).toNat = c.toNat := by
        rw [heq]
        have hcast : Int.ofNat c.toNat = (c.toNat : Int) := rfl
        omega
      have hfar := (havoid _ hblank).2
      rw [hback] at hfar
      exact absurd hholds (Bool.eq_false_iff.mp hfar)
    · exact hnonzero (heq ▸ hblank)

/-- The upper-case form of a character is visible exactly if the character is. -/
theorem visible_uppercaseChar {c : Char} : Visible (uppercaseChar c) ↔ isBlank c = false := by
  unfold uppercaseChar
  split
  · rename_i h
    simp [Visible, isBlank_asciiUppercase h]
  · split
    · rename_i n forms hfind
      obtain ⟨hpoint, hforms⟩ := uppercaseExpansions_avoid_blank _ (List.mem_of_find?_eq_some hfind)
      obtain rfl : n = c.toNat := by simpa using List.find?_some hfind
      refine iff_of_true ?_ ?_
      · obtain ⟨n, hn, hblank⟩ := hforms
        exact ⟨Char.ofNat n, List.mem_map_of_mem hn, hblank⟩
      · exact Bool.eq_false_iff.mpr fun h => hpoint (isBlank_iff.mp h)
    · split
      · rename_i d hd
        obtain ⟨hc, hd⟩ := isBlank_of_target? hd
        exact iff_of_true ⟨d, List.mem_singleton_self d, hd⟩ hc
      · simp [Visible]

theorem visible_capitalizeChars {word : List Char} :
    Visible (capitalizeChars word) ↔ Visible word := by
  cases word with
  | nil => rfl
  | cons c rest =>
      have hcons : Visible (c :: rest) ↔ isBlank c = false ∨ Visible rest := by simp [Visible]
      rw [capitalizeChars, visible_append, visible_uppercaseChar, hcons]

end Capitals

section Words

/-- The words of a name are its characters without the separators. -/
theorem flatten_wordsFrom (word : List Char) (afterSmall : Bool) (cs : List Char) :
    (wordsFrom word afterSmall cs).flatten =
      word.reverse ++ cs.filter fun c => !isWordSeparator c := by
  -- The word that has been begun stands in front of what is still to be read.
  induction cs generalizing word afterSmall with
  | nil => cases word <;> simp [wordsFrom]
  | cons c rest ih =>
      rw [wordsFrom]
      by_cases hseparator : isWordSeparator c = true
      · cases word <;> simp [hseparator, ih]
      · by_cases hcapital : (isUppercase c && afterSmall) = true
        · simp [hseparator, hcapital, ih]
        · simp [hseparator, hcapital, ih]

theorem visible_intercalate {separator : List Char} (h : ¬ Visible separator)
    {words : List (List Char)} :
    Visible (List.intercalate separator words) ↔ ∃ w ∈ words, Visible w := by
  induction words with
  | nil => simp [Visible]
  | cons w rest ih =>
      cases rest with
      | nil => simp
      | cons w' rest =>
          rw [List.intercalate_cons_cons, visible_append, visible_append, or_iff_left h, ih]
          simp only [List.mem_cons, exists_eq_or_imp]

end Words

section Names

/-- What stands behind the last occurrence of a character in a text. -/
def lastPiece (separator : Char) (cs : List Char) : List Char :=
  (cs.reverse.takeWhile (· ≠ separator)).reverse

theorem takeWhile_append_of_not_mem {separator : Char} {cs : List Char} (h : separator ∉ cs)
    (rest : List Char) : (cs ++ rest).takeWhile (· ≠ separator) =
      cs ++ rest.takeWhile (· ≠ separator) := by
  apply List.takeWhile_append_of_pos
  intro c hc
  exact decide_eq_true fun heq => h (heq ▸ hc)

theorem getLast?_splitChars (separator : Char) (cs : List Char) :
    (splitChars separator cs).getLast? = some (lastPiece separator cs) := by
  by_cases h : separator ∈ cs
  · obtain ⟨back, front, hsplit, hback⟩ := List.eq_append_cons_of_mem (List.mem_reverse.mpr h)
    have hcs : cs = front.reverse ++ separator :: back.reverse := by
      rw [← List.reverse_reverse cs, hsplit]
      simp
    have hpiece : lastPiece separator cs = back.reverse := by
      rw [lastPiece, hsplit, takeWhile_append_of_not_mem hback]
      simp
    rw [hpiece, hcs, splitChars_append,
      @splitChars_eq_singleton separator back.reverse (by simpa using hback)]
    exact List.getLast?_concat
  · have hpiece : lastPiece separator cs = cs := by
      have hreverse : separator ∉ cs.reverse := fun hmem => h (List.mem_reverse.mp hmem)
      rw [lastPiece, ← List.append_nil cs.reverse, takeWhile_append_of_not_mem hreverse]
      simp
    rw [hpiece, splitChars_eq_singleton h, List.getLast?_singleton]

/-- A title is visible exactly if the name at the end of its path has a character that is
neither a separator nor blank. -/
theorem visible_humanize {path : String} : Visible (humanize path).toList ↔
    ∃ c ∈ lastPiece '.' path.toList, isWordSeparator c = false ∧ isBlank c = false := by
  have hgap : ¬ Visible " ".toList := by
    rw [Visible, ← isBlankText_eq_false_iff]
    decide
  have hname : ((splitChars '.' path.toList).getLast?).getD [] = lastPiece '.' path.toList := by
    rw [getLast?_splitChars, Option.getD_some]
  generalize lastPiece '.' path.toList = name at hname ⊢
  calc Visible (humanize path).toList
      ↔ ∃ w ∈ wordsFrom [] false name, Visible (capitalizeChars w) := by
        rw [humanize, hname, String.toList_intercalate, visible_intercalate hgap]
        simp only [List.mem_map, exists_exists_and_eq_and, String.toList_ofList]
    _ ↔ Visible (wordsFrom [] false name).flatten := by
        simp only [visible_capitalizeChars, visible_flatten]
    _ ↔ Visible (name.filter fun c => !isWordSeparator c) := by
        rw [flatten_wordsFrom, List.reverse_nil, List.nil_append]
    _ ↔ ∃ c ∈ name, isWordSeparator c = false ∧ isBlank c = false := by
        simp [Visible, and_assoc]

end Names

/-- Trimming keeps what is visible of a text. -/
theorem visible_trim {s : String} : Visible (trim s).toList ↔ Visible s.toList := by
  obtain ⟨front, back, hs, hfront, hback⟩ := exists_trim s.toList
  have hblank {cs : List Char} (h : ∀ c ∈ cs, isBlank c = true) : ¬ Visible cs := by
    rintro ⟨c, hc, hvisible⟩
    rw [h c hc] at hvisible
    contradiction
  rw [String.ofList_toList] at hs
  rw [hs, visible_append, visible_append, or_iff_left (hblank hback), or_iff_right (hblank hfront)]

end ApiScreens.Text
