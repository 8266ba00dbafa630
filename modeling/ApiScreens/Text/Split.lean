/-!
# Splitting texts

Cutting a text at every occurrence of a character, and at the first occurrence of a text.
-/

namespace ApiScreens.Text

/-- The pieces between the occurrences of a character; a text without it is one piece. -/
def splitChars (separator : Char) : List Char → List (List Char)
  | [] => [[]]
  | c :: rest =>
    if c = separator then [] :: splitChars separator rest
    else match splitChars separator rest with
      | piece :: pieces => (c :: piece) :: pieces
      | [] => [[c]]

/-- The pieces of a text between the occurrences of a character. -/
def split (separator : Char) (s : String) : List String :=
  (splitChars separator s.toList).map String.ofList

/-- The text before and after the first occurrence of a mark. -/
def cutAt? (mark : List Char) : List Char → Option (List Char × List Char)
  | [] => if mark.isEmpty then some ([], []) else none
  | c :: rest =>
    if mark.isPrefixOf (c :: rest) then some ([], (c :: rest).drop mark.length)
    else (cutAt? mark rest).map fun (before, after) => (c :: before, after)

theorem splitChars_ne_nil (separator : Char) (s : List Char) : splitChars separator s ≠ [] := by
  cases s with
  | nil => simp [splitChars]
  | cons c rest =>
    simp only [splitChars]
    split
    · simp
    · split <;> simp

theorem splitChars_append {separator : Char} (front rest : List Char) :
    splitChars separator (front ++ separator :: rest) =
      splitChars separator front ++ splitChars separator rest := by
  induction front with
  | nil => simp [splitChars]
  | cons c front ih =>
      rw [List.cons_append, splitChars, splitChars, ih]
      split
      · rfl
      · cases hfront : splitChars separator front with
        | nil => exact absurd hfront (splitChars_ne_nil separator front)
        | cons piece pieces => rfl

theorem splitChars_eq_singleton {separator : Char} {s : List Char} (h : separator ∉ s) :
    splitChars separator s = [s] := by
  induction s with
  | nil => rfl
  | cons c rest ih =>
      obtain ⟨hc, hrest⟩ := not_or.mp fun hor => h (List.mem_cons.mpr hor)
      rw [splitChars, if_neg (Ne.symm hc), ih hrest]

/-- A mark is found where it stands. -/
theorem cutAt?_mark {mark : List Char} (hmark : mark ≠ []) (rest : List Char) :
    cutAt? mark (mark ++ rest) = some ([], rest) := by
  cases mark with
  | nil => exact absurd rfl hmark
  | cons c mark => simp [cutAt?]

/-- A mark is not found before its first character. -/
theorem cutAt?_append {c : Char} {mark front : List Char} (h : c ∉ front) (rest : List Char) :
    cutAt? (c :: mark) (front ++ rest) =
      (cutAt? (c :: mark) rest).map fun p => (front ++ p.1, p.2) := by
  induction front with
  | nil => simp
  | cons d front ih =>
      obtain ⟨hd, hfront⟩ := not_or.mp (mt List.mem_cons.mpr h)
      simp [cutAt?, hd, ih hfront, Function.comp_def]

theorem cutAt?_eq_none {c : Char} {mark cs : List Char} (h : c ∉ cs) :
    cutAt? (c :: mark) cs = none := by
  have hnone := @cutAt?_append c mark cs h []
  simpa [cutAt?] using hnone

/-- A text is what stands before a mark, the mark and what stands after it. -/
theorem eq_of_cutAt? {mark cs before after : List Char} (h : cutAt? mark cs = some (before, after)) :
    cs = before ++ mark ++ after := by
  fun_induction cutAt? mark cs generalizing before with
  | case1 hmark =>
      cases h
      simpa using hmark
  | case2 hmark => cases h
  | case3 c rest hmark =>
      cases h
      obtain ⟨tail, htail⟩ := List.isPrefixOf_iff_prefix.mp hmark
      rw [← htail, List.drop_left, List.nil_append]
  | case4 c rest hmark ih =>
      obtain ⟨⟨front, _⟩, hfront, heq⟩ := Option.map_eq_some_iff.mp h
      cases heq
      simp [ih hfront]

/-- What is found in a text is found in a longer one. -/
theorem cutAt?_extend {mark cs before after : List Char} (h : cutAt? mark cs = some (before, after))
    (more : List Char) : cutAt? mark (cs ++ more) = some (before, after ++ more) := by
  have hlength : mark.length ≤ cs.length := by
    rw [eq_of_cutAt? h]
    simp
    omega
  fun_induction cutAt? mark cs generalizing before with
  | case1 hmark =>
      cases h
      cases more <;> simp_all [cutAt?]
  | case2 hmark => cases h
  | case3 c rest hmark =>
      cases h
      have hstart := List.isPrefixOf_iff_prefix.mp hmark
      have hlonger : mark.isPrefixOf (c :: (rest ++ more)) = true :=
        List.isPrefixOf_iff_prefix.mpr (hstart.trans (List.prefix_append (c :: rest) more))
      rw [List.cons_append, cutAt?, if_pos hlonger, ← List.cons_append,
        List.drop_append_of_le_length hlength]
  | case4 c rest hmark ih =>
      obtain ⟨⟨front, _⟩, hfront, heq⟩ := Option.map_eq_some_iff.mp h
      cases heq
      -- A mark that begins here would have been found in the text itself, as that is long enough.
      have hlonger : ¬ mark.isPrefixOf (c :: (rest ++ more)) = true := by
        intro hstart
        apply hmark
        exact List.isPrefixOf_iff_prefix.mpr (List.prefix_of_prefix_length_le
          (List.isPrefixOf_iff_prefix.mp hstart) (List.prefix_append (c :: rest) more) hlength)
      have hrest : mark.length ≤ rest.length := by
        rw [eq_of_cutAt? hfront]
        simp
        omega
      rw [List.cons_append, cutAt?, if_neg hlonger, ih hfront hrest]
      rfl

/-- A mark is found in a text that it is part of. -/
theorem cutAt?_of_infix {mark cs : List Char} (h : mark <:+: cs) :
    ∃ before after, cutAt? mark cs = some (before, after) := by
  induction cs with
  | nil => 
    obtain rfl := List.eq_nil_of_infix_nil h
    exact ⟨[], [], rfl⟩
  | cons c rest ih =>
      rw [cutAt?]
      split
      · exact ⟨_, _, rfl⟩
      · next hmark =>
        obtain hstart | hinfix := List.infix_cons_iff.mp h
        · exact absurd (List.isPrefixOf_iff_prefix.mpr hstart) hmark
        · obtain ⟨before, after, hfound⟩ := ih hinfix
          exact ⟨c :: before, after, by rw [hfound]; rfl⟩

end ApiScreens.Text
