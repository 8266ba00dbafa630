/-!
# Blank characters

The characters of Unicode's property White_Space, trimming them from a text, and texts that hold
nothing else.
-/

namespace ApiScreens.Text

/-- The property White_Space. -/
def isBlank (c : Char) : Bool :=
  let n := c.toNat
  (0x9 ≤ n && n ≤ 0xD) || n == 0x20 || n == 0x85 || n == 0xA0 || n == 0x1680 ||
    (0x2000 ≤ n && n ≤ 0x200A) || n == 0x2028 || n == 0x2029 || n == 0x202F || n == 0x205F ||
    n == 0x3000

/-- The text without the blank characters at its start. -/
def trimStart (s : String) : String :=
  String.ofList (s.toList.dropWhile isBlank)

/-- The text without the blank characters at its end. -/
def trimEnd (s : String) : String :=
  String.ofList (s.toList.reverse.dropWhile isBlank).reverse

/-- The text without the blank characters at either end. -/
def trim (s : String) : String :=
  trimEnd (trimStart s)

/-- Whether the text holds blank characters only. -/
def isBlankText (s : String) : Bool :=
  s.toList.all isBlank

theorem isBlankText_eq_false_iff {s : String} :
    isBlankText s = false ↔ ∃ c ∈ s.toList, isBlank c = false := by
  simp [isBlankText]

/-- Dropping characters stops at a text that begins with one to keep. -/
theorem dropWhile_append_of_head {p : Char → Bool} (front : List Char) {body : List Char} {c : Char}
    (hbody : body.head? = some c) (hc : p c = false) :
    (front ++ body).dropWhile p = front.dropWhile p ++ body := by
  induction front with
  | nil =>
      obtain ⟨tail, rfl⟩ := List.head?_eq_some_iff.mp hbody
      simp [hc]
  | cons d front ih =>
      rw [List.cons_append, List.dropWhile_cons, List.dropWhile_cons, ih]
      split <;> rfl

/-- Trimming stops at a text without blank characters at its ends. -/
theorem trim_append (front back : List Char) {body : List Char} {c d : Char}
    (hfirst : body.head? = some c) (hc : isBlank c = false)
    (hlast : body.getLast? = some d) (hd : isBlank d = false) :
    (trim (String.ofList (front ++ body ++ back))).toList =
      front.dropWhile isBlank ++ body ++ (back.reverse.dropWhile isBlank).reverse := by
  have hstart : (body ++ back).head? = some c := by simp [hfirst]
  have hend : (body.reverse ++ (front.dropWhile isBlank).reverse).head? = some d := by
    simp [List.head?_reverse, hlast]
  simp only [trim, trimStart, trimEnd, String.toList_ofList]
  rw [List.append_assoc, dropWhile_append_of_head front hstart hc, ← List.append_assoc,
    List.reverse_append, List.reverse_append, dropWhile_append_of_head _ hend hd]
  simp

/-- Trimming takes blank characters off the ends of a text. -/
theorem exists_trim (cs : List Char) :
    ∃ front back, cs = front ++ (trim (String.ofList cs)).toList ++ back ∧
      (∀ c ∈ front, isBlank c = true) ∧ ∀ c ∈ back, isBlank c = true := by
  simp only [trim, trimStart, trimEnd, String.toList_ofList]
  generalize hstart : cs.dropWhile isBlank = body
  refine ⟨cs.takeWhile isBlank, (body.reverse.takeWhile isBlank).reverse, ?_, ?_, ?_⟩
  · rw [List.append_assoc, ← List.reverse_append, List.takeWhile_append_dropWhile,
      List.reverse_reverse, ← hstart, List.takeWhile_append_dropWhile]
  · exact List.all_eq_true.mp List.all_takeWhile
  · exact fun c hc => List.all_eq_true.mp List.all_takeWhile c (List.mem_reverse.mp hc)

end ApiScreens.Text
