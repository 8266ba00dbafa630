import ApiScreens.Planner.Reply
import ApiScreens.Proofs.Json.Scan

/-!
# Pieces of JSON texts

A piece of the text of an object that ends in a string, or begins behind one of its lines, is read
as no value. So is a text that begins beyond ASCII.
-/

namespace ApiScreens.Reply

open Json (Scan)
open Json.Scan (outside closed broken)

section Trimmed

variable {cs : List Char} {v : Json}

/-- Blank characters outside of strings leave the scan where it is or break it. -/
theorem run_outside_of_blank (h : ∀ c ∈ cs, Text.isBlank c = true) (braces : Nat) :
    (outside braces).run cs = outside braces ∨ (outside braces).run cs = broken := by
  induction cs with
  | nil => exact Or.inl rfl
  | cons c cs ih =>
      obtain ⟨hc, hcs⟩ := List.forall_mem_cons.mp h
      have hquote : c ≠ '"' := fun heq => by cases heq ▸ hc
      have hopen : c ≠ '\x7b' := fun heq => by cases heq ▸ hc
      have hclose : c ≠ '\x7d' := fun heq => by cases heq ▸ hc
      have hstep : (outside braces).step c = outside braces ∨ (outside braces).step c = broken := by
        simp only [Scan.step, if_neg hquote, if_neg hopen, if_neg hclose]
        split
        · exact Or.inl rfl
        · exact Or.inr rfl
      rw [Scan.run_cons]
      obtain hstep | hstep := hstep
      · rw [hstep]
        exact ih hcs
      · rw [hstep]
        exact Or.inr Scan.run_broken

/-- The scan of a text that is read once it is trimmed ends where it began. -/
theorem run_outside_of_readTrimmed? (h : readTrimmed? (String.ofList cs) = some v) {braces : Nat}
    (hrun : (outside braces).run cs ≠ broken) : (outside braces).run cs = outside braces := by
  obtain ⟨front, back, hcs, hfront, hback⟩ := Text.exists_trim cs
  have hread := Json.run_outside_of_read? h braces
  rw [hcs, Scan.run_append, Scan.run_append] at hrun ⊢
  have hstart := (run_outside_of_blank hfront braces).resolve_right fun hbroken => hrun (by
    rw [hbroken, Scan.run_broken, Scan.run_broken])
  rw [hstart, hread] at hrun ⊢
  exact (run_outside_of_blank hback braces).resolve_right hrun

theorem isBlank_of_isSpace {c : Char} (h : Json.isSpace c = true) : Text.isBlank c = true := by
  simp only [Json.isSpace, Bool.or_eq_true, beq_iff_eq] at h
  rcases h with ((rfl | rfl) | rfl) | rfl <;> rfl

/-- Where only blank characters may follow, the text of a value breaks the scan. -/
theorem run_closed_of_readTrimmed? (h : readTrimmed? (String.ofList cs) = some v) :
    closed.run cs = broken := by
  by_contra hrun
  have hblank : ∀ c ∈ cs, Text.isBlank c = true :=
    fun c hc => isBlank_of_isSpace (Scan.forall_isSpace_of_run_closed hrun c hc)
  have hempty : Text.trim (String.ofList cs) = "" := by
    simp [Text.trim, Text.trimStart, Text.trimEnd, List.dropWhile_eq_nil_iff.mpr hblank]
  rw [readTrimmed?, hempty] at h
  cases h

/-- A text is read only where its scan may begin and ends where it begins. -/
theorem run_of_readTrimmed? (h : readTrimmed? (String.ofList cs) = some v) {s : Scan}
    (hs : s.inString = false) (hrun : s.run cs ≠ broken) :
    ∃ braces, s = outside braces ∧ s.run cs = outside braces := by
  cases s with
  | outside braces => exact ⟨braces, rfl, run_outside_of_readTrimmed? h hrun⟩
  | closed => exact absurd (run_closed_of_readTrimmed? h) hrun
  | broken => exact absurd Scan.run_broken hrun
  | inside | escaped => cases hs

/-- A text is not read if its scan ends elsewhere than outside of strings, but is not broken. -/
theorem readTrimmed?_eq_none {s : Scan} (hs : s.inString = false) (hbroken : s.run cs ≠ broken)
    (hout : ∀ braces, s.run cs ≠ outside braces) : readTrimmed? (String.ofList cs) = none := by
  rw [Option.eq_none_iff_forall_ne_some]
  intro w hw
  obtain ⟨braces, -, hrun⟩ := run_of_readTrimmed? hw hs hbroken
  exact hout braces hrun

/-- What stands behind a new line is not read if the scan of the whole text ends elsewhere than
outside of strings, but is not broken. -/
theorem readTrimmed?_behind_newline {line : List Char}
    (hbroken : (outside 0).run (line ++ '\n' :: cs) ≠ broken)
    (hout : ∀ braces, (outside 0).run (line ++ '\n' :: cs) ≠ outside braces) :
    readTrimmed? (String.ofList cs) = none := by
  rw [Scan.run_append, Scan.run_cons] at hbroken
  simp only [Scan.run_append, Scan.run_cons] at hout
  generalize (outside 0).run line = s at hbroken hout
  have hnewline : s.step '\n' ≠ broken := by
    intro hstep
    rw [hstep] at hbroken
    exact hbroken Scan.run_broken
  obtain ⟨hstep, hs⟩ := Scan.step_newline hnewline
  rw [hstep] at hbroken hout
  exact readTrimmed?_eq_none hs hbroken hout

end Trimmed

section Beyond

variable {c : Char}

/-- A text that begins with a character that is not blank begins with it once it is trimmed. -/
theorem exists_trim_cons (hblank : Text.isBlank c = false) (rest : List Char) :
    ∃ tail, (Text.trim (String.ofList (c :: rest))).toList = c :: tail := by
  obtain ⟨front, back, hcs, hfront, hback⟩ := Text.exists_trim (c :: rest)
  generalize (Text.trim (String.ofList (c :: rest))).toList = trimmed at hcs ⊢
  have hfirst : ∀ d cs, c :: rest = d :: cs → Text.isBlank d ≠ true := by
    intro d cs heq
    rw [← (List.cons.inj heq).1, hblank]
    exact Bool.false_ne_true
  cases front with
  | cons d front => exact absurd (hfront d List.mem_cons_self) (hfirst d _ hcs)
  | nil =>
      cases trimmed with
      | cons d trimmed => exact ⟨trimmed, by rw [(List.cons.inj hcs).1]⟩
      | nil =>
          cases back with
          | nil => cases hcs
          | cons d back => exact absurd (hback d List.mem_cons_self) (hfirst d _ hcs)

/-- A text that begins beyond ASCII is the text of no value. -/
theorem readTrimmed?_cons (hascii : 0x80 ≤ c.toNat) (hblank : Text.isBlank c = false)
    (rest : List Char) : readTrimmed? (String.ofList (c :: rest)) = none := by
  rw [Option.eq_none_iff_forall_ne_some]
  intro v hread
  obtain ⟨tail, htail⟩ := exists_trim_cons hblank rest
  have hrun := Json.run_outside_of_read? hread 0
  have hne : ∀ d : Char, d.toNat < 0x80 → c ≠ d := by
    rintro d hd rfl
    omega
  have hbare : Scan.isBare c = false := by
    simp [Scan.isBare]
    omega
  have hstep : (outside 0).step c = broken := by
    simp [Scan.step, hne, hbare]
  rw [htail, Scan.run_cons, hstep, Scan.run_broken] at hrun
  cases hrun

end Beyond

section Content

theorem ne_of_inString {s : Scan} (h : s.inString = true) :
    s ≠ broken ∧ ∀ braces, s ≠ outside braces := by
  constructor
  · rintro rfl
    cases h
  · rintro braces rfl
    cases h

theorem run_outside_of_spaces {gap : List Char} (h : ∀ c ∈ gap, c = ' ') {braces : Nat} :
    (outside braces).run gap = outside braces := by
  induction gap with
  | nil => rfl
  | cons c gap ih =>
      obtain ⟨rfl, hgap⟩ := List.forall_mem_cons.mp h
      exact ih hgap

variable {text : String} {v : Json}

/-- A fence in the text of a value stands in a string. -/
theorem inString_of_fence {cs rest : List Char} (hread : Json.read? text = some v)
    (htext : text.toList = cs ++ (fence ++ rest)) : ((outside 0).run cs).inString = true := by
  apply Scan.inString_of_step_fence
  intro hbroken
  have hrun := Json.run_outside_of_read? hread 0
  rw [htext, Scan.run_append, fence, List.cons_append, Scan.run_cons, hbroken,
    Scan.run_broken] at hrun
  cases hrun

/-- What stands before a fence in the text of a value is read as no value. -/
theorem readTrimmed?_of_fence {gap cs rest : List Char} (hread : Json.read? text = some v)
    (htext : text.toList = cs ++ (fence ++ rest)) (hgap : ∀ c ∈ gap, c = ' ') :
    readTrimmed? (String.ofList (gap ++ cs)) = none := by
  have hrun : (outside 0).run (gap ++ cs) = (outside 0).run cs := by
    rw [Scan.run_append, run_outside_of_spaces hgap]
  obtain ⟨hbroken, hout⟩ := ne_of_inString (inString_of_fence hread htext)
  rw [← hrun] at hbroken hout
  exact readTrimmed?_eq_none rfl hbroken hout

/-- What stands between a new line and a fence in the text of a value is read as no value. -/
theorem readTrimmed?_of_newline_of_fence {line cs rest : List Char}
    (hread : Json.read? text = some v)
    (htext : text.toList = line ++ '\n' :: cs ++ (fence ++ rest)) :
    readTrimmed? (String.ofList cs) = none := by
  obtain ⟨hbroken, hout⟩ := ne_of_inString (inString_of_fence hread htext)
  exact readTrimmed?_behind_newline hbroken hout

/-- What stands behind a new line in the text of an object is read as no value. -/
theorem readTrimmed?_of_newline {ending line cs : List Char} (hread : Json.read? text = some v)
    (hfirst : text.toList.head? = some '\x7b') (hending : ∀ c ∈ ending, Json.isSpace c = true)
    (htext : text.toList ++ ending = line ++ '\n' :: cs) :
    readTrimmed? (String.ofList cs) = none := by
  obtain ⟨inner, hinner⟩ := List.head?_eq_some_iff.mp hfirst
  rw [hinner] at htext
  cases line with
  | nil => cases htext
  | cons c line =>
      have hbehind : inner ++ ending = line ++ '\n' :: cs := (List.cons.inj htext).2
      -- Behind the first brace of the object the scan ends closed.
      have hclosed : (outside 0).run (line ++ '\n' :: cs) = closed := by
        rw [← hbehind, Scan.run_append, Json.run_outside_of_read?_brace hread hinner,
          Scan.run_closed hending]
      have hbroken : (outside 0).run (line ++ '\n' :: cs) ≠ broken := hclosed ▸ nofun
      exact readTrimmed?_behind_newline hbroken fun braces => hclosed ▸ nofun

end Content

end ApiScreens.Reply
