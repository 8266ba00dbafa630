import ApiScreens.Proofs.Json.IndentedText
import ApiScreens.Proofs.Planner.Pieces
import ApiScreens.Proofs.Text.Slug

/-!
# Fenced replies

A reply that fences the text of an object is read as the object, unless the text holds a fence
itself, or stands behind the name of a language on the line of the fence and has a new line in the
block or a name that is not plain.
-/

namespace ApiScreens.Reply

open Json (Scan)
open Json.Scan (outside)

/-- Whether a character may be part of the name of a language: a letter or a digit of any script is
ASCII and alphanumeric, or beyond ASCII and not blank. -/
def IsNameChar (c : Char) : Prop :=
  c.isAlphanum = true ∨ 0x80 ≤ c.toNat ∧ Text.isBlank c = false

section Names

variable {c : Char}

theorem IsNameChar.ne (h : IsNameChar c) :
    c ≠ '\n' ∧ c ≠ '`' ∧ c ≠ '\x7b' := by
  refine ⟨?_, ?_, ?_⟩ <;> rintro rfl <;> revert h <;> simp [IsNameChar]

theorem IsNameChar.isBlank_eq_false (h : IsNameChar c) : Text.isBlank c = false := by
  obtain hascii | ⟨-, hblank⟩ := h
  · have hrange := Text.isSlugChar_iff.mp hascii
    simp only [Text.isBlank, Bool.or_eq_false_iff, Bool.and_eq_false_iff, decide_eq_false_iff_not,
      beq_eq_false_iff_ne]
    omega
  · exact hblank

/-- What is left of a text without its plain characters begins with one that is not plain. -/
theorem exists_dropWhile_eq_cons {p : Char → Bool} {cs : List Char} (h : ¬ ∀ c ∈ cs, p c = true) :
    ∃ c rest, cs.dropWhile p = c :: rest ∧ c ∈ cs ∧ ¬ p c = true := by
  cases hdrop : cs.dropWhile p with
  | nil => exact absurd (List.dropWhile_eq_nil_iff.mp hdrop) h
  | cons c rest =>
      have hmem : c ∈ cs.dropWhile p := hdrop ▸ List.mem_cons_self
      have hhead := List.head?_dropWhile_not p cs
      rw [hdrop] at hhead
      exact ⟨c, rest, rfl, (List.dropWhile_suffix p).subset hmem, by simpa using hhead⟩

/-- A line that begins with a name does not open an object. -/
theorem opensObject_cons (h : IsNameChar c) (rest : List Char) : opensObject (c :: rest) = false := by
  simp [opensObject, h.isBlank_eq_false, h.ne]

end Names

theorem fence_ne_nil : fence ≠ [] := List.cons_ne_nil _ _

theorem cutAt?_fence_append {front : List Char} (h : '`' ∉ front) (rest : List Char) :
    Text.cutAt? fence (front ++ rest) =
      (Text.cutAt? fence rest).map fun p => (front ++ p.1, p.2) :=
  Text.cutAt?_append h rest

/-- A mark of a fence is found behind a text that holds none and does not end in one. -/
theorem cutAt?_fence {cs : List Char} (h : ¬ fence <:+: cs) (hlast : cs.getLast? ≠ some '`')
    (rest : List Char) : Text.cutAt? fence (cs ++ (fence ++ rest)) = some (cs, rest) := by
  induction cs with
  | nil => exact Text.cutAt?_mark fence_ne_nil rest
  | cons c cs ih =>
      have hmark : ¬ fence.isPrefixOf (c :: (cs ++ (fence ++ rest))) = true := by
        intro hstart
        rcases cs with _ | ⟨d, _ | ⟨e, cs⟩⟩
        · simp [fence] at hstart
          simp [← hstart] at hlast
        · simp [fence] at hstart
          simp [← hstart] at hlast
        · simp [fence] at hstart
          obtain ⟨rfl, rfl, rfl⟩ := hstart
          exact h (List.prefix_append fence cs).isInfix
      have hcs : ¬ fence <:+: cs := fun hinfix => h (List.infix_cons hinfix)
      have htail : cs.getLast? ≠ some '`' := by
        intro heq
        exact hlast (by simp [List.getLast?_cons, heq])
      rw [List.cons_append, Text.cutAt?, if_neg hmark, ih hcs htail]
      rfl

section Blocks

variable {name gap : List Char}

theorem not_mem_of_spaces {c : Char} (hgap : ∀ c ∈ gap, c = ' ') (hc : c ≠ ' ') : c ∉ gap :=
  fun hmem => hc (hgap c hmem)

theorem cutAt?_newline {line : List Char} (h : '\n' ∉ line) (rest : List Char) :
    Text.cutAt? ['\n'] (line ++ '\n' :: rest) = some (line, rest) := by
  have hmark : Text.cutAt? ['\n'] ('\n' :: rest) = some ([], rest) :=
    Text.cutAt?_mark (List.cons_ne_nil _ _) rest
  rw [Text.cutAt?_append h, hmark]
  simp

/-- A first line that does not open an object is left out. -/
theorem blockBody_lines {line : List Char} (h : '\n' ∉ line) (hopens : opensObject line = false)
    (rest : List Char) : blockBody (line ++ '\n' :: rest) = rest := by
  simp [blockBody, cutAt?_newline h, hopens]

theorem afterName_append (hgap : ∀ c ∈ gap, c = ' ') (rest : List Char) :
    afterName (name ++ (gap ++ '\x7b' :: rest)) =
      name.dropWhile Char.isAlphanum ++ (gap ++ '\x7b' :: rest) := by
  cases gap with
  | nil => exact Text.dropWhile_append_of_head name rfl (by decide)
  | cons c gap =>
      obtain rfl := hgap c List.mem_cons_self
      exact Text.dropWhile_append_of_head name rfl (by decide)

/-- A block that opens an object without a name is the text of the object. -/
theorem blockBody_unnamed (hgap : ∀ c ∈ gap, c = ' ') (rest : List Char) :
    blockBody (gap ++ '\x7b' :: rest) = gap ++ '\x7b' :: rest := by
  have hafter : afterName (gap ++ '\x7b' :: rest) = gap ++ '\x7b' :: rest :=
    @afterName_append [] gap hgap rest
  have hline : '\n' ∉ gap ++ ['\x7b'] := by
    simp only [List.mem_append, List.mem_singleton, not_or]
    exact ⟨not_mem_of_spaces hgap (by decide), by decide⟩
  have hcut := @Text.cutAt?_append '\n' [] (gap ++ ['\x7b']) hline rest
  rw [List.append_assoc, List.singleton_append] at hcut
  rw [blockBody, hcut]
  cases Text.cutAt? ['\n'] rest with
  | none => exact hafter
  | some p =>
      have hopens : opensObject (gap ++ ['\x7b'] ++ p.1) = true := by
        rw [List.append_assoc, opensObject, Text.dropWhile_append_of_head gap rfl (by decide),
          List.dropWhile_eq_nil_iff.mpr fun c hc => hgap c hc ▸ rfl]
        rfl
      simp only [Option.map_some, hopens, if_true]
      exact hafter

/-- The name in a block of one line is left out as far as it is plain. -/
theorem blockBody_inline (hname : ∀ c ∈ name, IsNameChar c) (hgap : ∀ c ∈ gap, c = ' ')
    {rest : List Char} (hrest : '\n' ∉ rest) :
    blockBody (name ++ (gap ++ '\x7b' :: rest)) =
      name.dropWhile Char.isAlphanum ++ (gap ++ '\x7b' :: rest) := by
  have hline : '\n' ∉ name ++ (gap ++ '\x7b' :: rest) := by
    simp only [List.mem_append, List.mem_cons, not_or]
    exact ⟨fun hmem => (hname _ hmem).ne.1 rfl, not_mem_of_spaces hgap (by decide), by decide,
      hrest⟩
  rw [blockBody, Text.cutAt?_eq_none hline]
  exact afterName_append hgap rest

end Blocks

/-- A reply that holds a text in a fenced block, with prose around the block. -/
structure Fenced where
  before : String
  /-- The name of the language of the block. -/
  name : String
  /-- What separates the name and the text. -/
  gap : String
  text : String
  ending : String
  after : String

namespace Fenced

/-- The reply as it is written. -/
def reply (f : Fenced) : String :=
  f.before ++ String.ofList fence ++ f.name ++ f.gap ++ f.text ++ f.ending ++
    String.ofList fence ++ f.after

/-- The block holds a text of an object. -/
structure Holds (f : Fenced) (v : Json) : Prop extends Json.IsObjectText f.text v where
  before : '`' ∉ f.before.toList ∧ '"' ∉ f.before.toList
  name : ∀ c ∈ f.name.toList, IsNameChar c
  gap : f.gap = "\n" ∨ ∀ c ∈ f.gap.toList, c = ' '
  ending : f.ending = "" ∨ f.ending = "\n"

/-- Whether the name leaves what it stands before alone: there is no name, or it has a line of its
own, or it is plain and no line ends in the rest of the block. -/
def NameApart (f : Fenced) (content : List Char) : Prop :=
  f.name = "" ∨ f.gap = "\n" ∨ f.name.toList.all Char.isAlphanum = true ∧ '\n' ∉ content

/-- Whether the block shows where the text begins and ends. -/
def Readable (f : Fenced) : Prop :=
  ¬ fence <:+: f.text.toList ∧ f.NameApart (f.text.toList ++ f.ending.toList)

/-- The characters of the block. -/
def block (f : Fenced) : List Char :=
  f.name.toList ++ (f.gap.toList ++ (f.text.toList ++ f.ending.toList))

/-- What is left of the block if it holds the characters behind the name and the gap. -/
def body (f : Fenced) (cs : List Char) : List Char :=
  blockBody (f.name.toList ++ (f.gap.toList ++ cs))

instance (f : Fenced) (content : List Char) : Decidable (f.NameApart content) :=
  inferInstanceAs (Decidable (f.name = "" ∨ f.gap = "\n" ∨
    f.name.toList.all Char.isAlphanum = true ∧ '\n' ∉ content))

instance (f : Fenced) : Decidable f.Readable :=
  inferInstanceAs (Decidable (¬ fence <:+: f.text.toList ∧
    f.NameApart (f.text.toList ++ f.ending.toList)))

variable {f : Fenced} {v : Json}

namespace Holds

theorem trim_reply (h : f.Holds v) : ∃ before after,
    (Text.trim f.reply).toList = before ++ (fence ++ (f.block ++ (fence ++ after))) ∧
      '`' ∉ before ∧ '"' ∉ before := by
  have hsplit : f.reply = String.ofList
      (f.before.toList ++ (fence ++ f.block ++ fence) ++ f.after.toList) := by
    apply String.toList_injective
    simp [reply, block]
  have hfirst : (fence ++ f.block ++ fence).head? = some '`' := rfl
  have hlast : (fence ++ f.block ++ fence).getLast? = some '`' := List.getLast?_append.trans rfl
  have htrim := Text.trim_append f.before.toList f.after.toList hfirst (by decide) hlast (by decide)
  have hsub := (List.dropWhile_suffix (p := Text.isBlank) (l := f.before.toList)).subset
  refine ⟨_, (f.after.toList.reverse.dropWhile Text.isBlank).reverse, ?_,
    fun hmem => h.before.1 (hsub hmem), fun hmem => h.before.2 (hsub hmem)⟩
  rw [hsplit, htrim]
  simp

/-- A reply with prose before its fence is not JSON by itself. -/
theorem readTrimmed?_reply (h : f.Holds v) : readTrimmed? f.reply = none := by
  rw [Option.eq_none_iff_forall_ne_some]
  intro w hw
  obtain ⟨before, after, htrim, -, hquote⟩ := h.trim_reply
  have hout := Scan.inString_run (s := outside 0) hquote rfl
  have hinside := inString_of_fence hw htrim
  rw [hout] at hinside
  cases hinside

theorem fence_not_mem (h : f.Holds v) : '`' ∉ f.name.toList ++ f.gap.toList := by
  rw [List.mem_append, not_or]
  refine ⟨fun hmem => (h.name _ hmem).ne.2.1 rfl, ?_⟩
  obtain hgap | hgap := h.gap
  · rw [hgap]
    decide
  · exact not_mem_of_spaces hgap (by decide)

theorem getLast?_content (h : f.Holds v) :
    (f.text.toList ++ f.ending.toList).getLast? ≠ some '`' := by
  obtain hending | hending := h.ending <;> simp [hending, h.last]

theorem not_infix_content (h : f.Holds v) (hfence : ¬ fence <:+: f.text.toList) :
    ¬ fence <:+: f.text.toList ++ f.ending.toList := by
  obtain hending | hending := h.ending
  · simpa [hending] using hfence
  · intro hinfix
    have hline : f.ending.toList = ['\n'] := by rw [hending]; rfl
    rw [hline] at hinfix
    obtain ⟨front, hsuffix⟩ | htext := List.infix_concat_iff.mp hinfix
    · have hlast := congrArg List.getLast? hsuffix
      simp [fence] at hlast
    · exact hfence htext

/-- What the block holds behind the name and the gap: the text up to a fence in it, or all of it. -/
theorem block?_reply (h : f.Holds v) :
    ∃ cs, block? (Text.trim f.reply).toList =
        some (f.name.toList ++ (f.gap.toList ++ cs)) ∧
      (¬ fence <:+: f.text.toList ∧ cs = f.text.toList ++ f.ending.toList ∨
        ∃ rest, f.text.toList = cs ++ (fence ++ rest)) := by
  obtain ⟨before, after, htrim, hbefore, -⟩ := h.trim_reply
  have hopening : Text.cutAt? fence (Text.trim f.reply).toList =
      some (before, f.block ++ (fence ++ after)) := by
    rw [htrim, cutAt?_fence_append hbefore, Text.cutAt?_mark fence_ne_nil]
    simp
  have hclosing : (Text.cutAt? fence (f.block ++ (fence ++ after))).map Prod.fst =
      ((Text.cutAt? fence (f.text.toList ++ (f.ending.toList ++ (fence ++ after)))).map
        fun p => f.name.toList ++ (f.gap.toList ++ p.1)) := by
    have hfront : f.block ++ (fence ++ after) = (f.name.toList ++ f.gap.toList) ++
        (f.text.toList ++ (f.ending.toList ++ (fence ++ after))) := by simp [block]
    rw [hfront, cutAt?_fence_append h.fence_not_mem, Option.map_map]
    simp [Function.comp_def]
  have hblock : block? (Text.trim f.reply).toList =
      (Text.cutAt? fence (f.block ++ (fence ++ after))).map Prod.fst := by
    simp [block?, hopening, Option.map_eq_bind]
  rw [hblock, hclosing]
  by_cases hfence : fence <:+: f.text.toList
  · obtain ⟨cs, rest, hcut⟩ := Text.cutAt?_of_infix hfence
    refine ⟨cs, ?_, Or.inr ⟨rest, ?_⟩⟩
    · rw [Text.cutAt?_extend hcut, Option.map_some]
    · rw [Text.eq_of_cutAt? hcut, List.append_assoc]
  · refine ⟨f.text.toList ++ f.ending.toList, ?_, Or.inl ⟨hfence, rfl⟩⟩
    rw [← List.append_assoc, cutAt?_fence (h.not_infix_content hfence) h.getLast?_content,
      Option.map_some]

theorem isSpace_ending (h : f.Holds v) : ∀ c ∈ f.ending.toList, Json.isSpace c = true := by
  obtain hending | hending := h.ending <;> simp [hending, Json.isSpace]

theorem newline_not_mem_name (h : f.Holds v) : '\n' ∉ f.name.toList :=
  fun hmem => (h.name _ hmem).ne.1 rfl

/-- The line of a name does not open an object. -/
theorem opensObject_name (h : f.Holds v) (hname : f.name ≠ "") (rest : List Char) :
    opensObject (f.name.toList ++ rest) = false := by
  cases hchars : f.name.toList with
  | nil => exact absurd (String.toList_eq_nil_iff.mp hchars) hname
  | cons c name =>
      have hc := h.name c (by rw [hchars]; exact List.mem_cons_self)
      exact opensObject_cons hc (name ++ rest)

/-- Behind a name that stands apart only spaces are left in front of the text. -/
theorem body_of_nameApart (h : f.Holds v) {tail : List Char} (hapart : f.NameApart ('\x7b' :: tail)) :
    ∃ spaces, (∀ c ∈ spaces, c = ' ') ∧ f.body ('\x7b' :: tail) = spaces ++ '\x7b' :: tail := by
  by_cases hgap : f.gap = "\n"
  · have hopens : opensObject f.name.toList = false := by
      by_cases hname : f.name = ""
      · rw [hname]
        rfl
      · simpa using h.opensObject_name hname []
    have hline : f.gap.toList = ['\n'] := by rw [hgap]; rfl
    refine ⟨[], nofun, ?_⟩
    rw [body, hline]
    exact blockBody_lines h.newline_not_mem_name hopens _
  · have hspaces := h.gap.resolve_left hgap
    refine ⟨f.gap.toList, hspaces, ?_⟩
    obtain hname | hline | ⟨hplain, hline⟩ := hapart
    · rw [body, hname]
      exact blockBody_unnamed hspaces tail
    · exact absurd hline hgap
    · have htail : '\n' ∉ tail := fun hmem => hline (List.mem_cons_of_mem _ hmem)
      rw [body, blockBody_inline h.name hspaces htail,
        List.dropWhile_eq_nil_iff.mpr (List.all_eq_true.mp hplain), List.nil_append]

/-- Behind a name that does not stand apart, lines of the text are left out or a character beyond
ASCII is left in front of it. -/
theorem body_of_not_nameApart (h : f.Holds v) {tail : List Char}
    (hapart : ¬ f.NameApart ('\x7b' :: tail)) :
    (∃ line, '\x7b' :: tail = line ++ '\n' :: f.body ('\x7b' :: tail)) ∨
      ∃ c rest, 0x80 ≤ c.toNat ∧ Text.isBlank c = false ∧ f.body ('\x7b' :: tail) = c :: rest := by
  simp only [NameApart, not_or, not_and, not_not] at hapart
  obtain ⟨hname, hgap, hline⟩ := hapart
  have hspaces := h.gap.resolve_left hgap
  by_cases hnewline : '\n' ∈ '\x7b' :: tail
  · obtain ⟨line, rest, hcs, hfirst⟩ := List.eq_append_cons_of_mem hnewline
    have hall : '\n' ∉ f.name.toList ++ (f.gap.toList ++ line) := by
      simp only [List.mem_append, not_or]
      exact ⟨h.newline_not_mem_name, not_mem_of_spaces hspaces (by decide), hfirst⟩
    have hbody : f.body ('\x7b' :: tail) = rest := by
      have hlines := blockBody_lines hall (h.opensObject_name hname _) rest
      rw [body, hcs]
      simpa using hlines
    exact Or.inl ⟨line, hbody.symm ▸ hcs⟩
  · have hplain : ¬ ∀ c ∈ f.name.toList, c.isAlphanum = true :=
      fun hall => hnewline (hline (List.all_eq_true.mpr hall))
    obtain ⟨c, rest, hdrop, hmem, hc⟩ := exists_dropWhile_eq_cons hplain
    obtain ⟨hascii, hblank⟩ := (h.name c hmem).resolve_left hc
    have htail : '\n' ∉ tail := fun hmem => hnewline (List.mem_cons_of_mem _ hmem)
    refine Or.inr ⟨c, rest ++ (f.gap.toList ++ '\x7b' :: tail), hascii, hblank, ?_⟩
    rw [body, blockBody_inline h.name hspaces htail, hdrop, List.cons_append]

theorem readTrimmed?_content (h : f.Holds v) {spaces : List Char} (hspaces : ∀ c ∈ spaces, c = ' ') :
    readTrimmed? (String.ofList (spaces ++ (f.text.toList ++ f.ending.toList))) = some v := by
  have htrim := Text.trim_append spaces f.ending.toList h.first (by decide) h.last (by decide)
  have hending : ∀ c ∈ f.ending.toList.reverse, Text.isBlank c = true :=
    fun c hc => isBlank_of_isSpace (h.isSpace_ending c (List.mem_reverse.mp hc))
  rw [List.dropWhile_eq_nil_iff.mpr fun c hc => hspaces c hc ▸ rfl,
    List.dropWhile_eq_nil_iff.mpr hending, List.nil_append, List.reverse_nil, List.append_nil,
    List.append_assoc] at htrim
  rw [readTrimmed?, String.toList_injective htrim]
  exact h.reads

theorem value?_text (h : f.Holds v) : value? f.text = some v := by
  have htrim := Text.trim_append [] [] h.first (by decide) h.last (by decide)
  have htext : Text.trim f.text = f.text := by
    apply String.toList_injective
    simpa using htrim
  have hread : readTrimmed? f.text = some v := by
    rw [readTrimmed?, htext]
    exact h.reads
  delta value?
  rw [hread]

theorem value?_reply_eq (h : f.Holds v) {cs : List Char}
    (hblock : block? (Text.trim f.reply).toList = some (f.name.toList ++ (f.gap.toList ++ cs))) :
    value? f.reply = readTrimmed? (String.ofList (f.body cs)) := by
  delta value?
  rw [h.readTrimmed?_reply, hblock]
  exact Option.bind_some _ _

/-- A text that holds a fence is cut off there, and what is left is read as no value. -/
theorem value?_reply_of_fence (h : f.Holds v) {cs rest : List Char}
    (htext : f.text.toList = cs ++ (fence ++ rest))
    (hblock : block? (Text.trim f.reply).toList = some (f.name.toList ++ (f.gap.toList ++ cs))) :
    value? f.reply = none := by
  obtain ⟨tail, rfl⟩ : ∃ tail, cs = '\x7b' :: tail := by
    have hfirst := h.first
    rw [htext] at hfirst
    cases cs with
    | nil => cases hfirst
    | cons c tail => exact ⟨tail, by rw [Option.some.inj hfirst]⟩
  rw [h.value?_reply_eq hblock]
  by_cases hapart : f.NameApart ('\x7b' :: tail)
  · obtain ⟨spaces, hspaces, hbody⟩ := h.body_of_nameApart hapart
    rw [hbody]
    exact readTrimmed?_of_fence h.reads htext hspaces
  · obtain ⟨line, hline⟩ | ⟨c, behind, hascii, hblank, hbody⟩ := h.body_of_not_nameApart hapart
    · rw [hline] at htext
      exact readTrimmed?_of_newline_of_fence h.reads htext
    · rw [hbody]
      exact readTrimmed?_cons hascii hblank behind

/-- A text in a block of its own is read exactly if the name stands apart. -/
theorem value?_reply_of_block (h : f.Holds v)
    (hblock : block? (Text.trim f.reply).toList = some f.block) :
    value? f.reply =
      if f.NameApart (f.text.toList ++ f.ending.toList) then some v else none := by
  obtain ⟨tail, htail⟩ := List.head?_eq_some_iff.mp h.first
  have hcs : f.text.toList ++ f.ending.toList = '\x7b' :: (tail ++ f.ending.toList) := by
    rw [htail, List.cons_append]
  rw [h.value?_reply_eq hblock]
  split
  · next hapart =>
    obtain ⟨spaces, hspaces, hbody⟩ := h.body_of_nameApart (hcs ▸ hapart)
    rw [hcs, hbody, ← hcs]
    exact h.readTrimmed?_content hspaces
  · next hapart =>
    obtain ⟨line, hline⟩ | ⟨c, behind, hascii, hblank, hbody⟩ :=
      h.body_of_not_nameApart (hcs ▸ hapart)
    · rw [← hcs] at hline
      exact readTrimmed?_of_newline h.reads h.first h.isSpace_ending hline
    · rw [hcs, hbody]
      exact readTrimmed?_cons hascii hblank behind

end Holds

/-- A reply with the text of an object in a fenced block is read as the object exactly if the block
shows where the text begins and ends. -/
theorem value?_reply (h : f.Holds v) :
    value? f.text = some v ∧ value? f.reply = if f.Readable then some v else none := by
  refine ⟨h.value?_text, ?_⟩
  obtain ⟨cs, hblock, ⟨hfence, rfl⟩ | ⟨rest, htext⟩⟩ := h.block?_reply
  · rw [h.value?_reply_of_block hblock]
    simp [Readable, hfence]
  · have hinfix : fence <:+: f.text.toList := ⟨cs, rest, by rw [htext, List.append_assoc]⟩
    rw [h.value?_reply_of_fence htext hblock, if_neg fun hreadable => hreadable.1 hinfix]

/-- A record that a reply may hold. -/
def sampleRecord : Json :=
  .object [("name", .string "Ada"), ("tags", .array [.string "x", .null])]

/-- The indented text of a record behind a sentence and the line of a name. -/
def sampleReply : Fenced :=
  ⟨"Here you go:\n", "json", "\n", sampleRecord.pretty, "\n", "\nThat is all."⟩

/-- The indented text of a record is found behind a sentence and the line of a name. -/
theorem value?_sampleReply :
    sampleReply.Holds sampleRecord ∧ sampleReply.Readable ∧
      value? sampleReply.text = some sampleRecord ∧ value? sampleReply.reply = some sampleRecord := by
  have hreads : sampleRecord.ReadsBack Json.maxDepth := by
    change Json.ReadsBack (126 + 1) sampleRecord
    apply Json.ReadsBack.object
    simp only [List.forall_mem_cons]
    refine ⟨.string "Ada", @Json.ReadsBack.array 125 _ ?_, nofun⟩
    simp only [List.forall_mem_cons]
    exact ⟨.string "x", .null, nofun⟩
  have hsorted : sampleRecord.sorted = sampleRecord := by decide +kernel
  have hholds : sampleReply.Holds sampleRecord := {
    toIsObjectText := hsorted ▸ Json.isObjectText_pretty hreads
    before := by decide
    name := by simp [sampleReply, IsNameChar]
    gap := Or.inl rfl
    ending := Or.inr rfl }
  have hreadable : sampleReply.Readable := by decide +kernel
  obtain ⟨htext, hreply⟩ := value?_reply hholds
  exact ⟨hholds, hreadable, htext, hreply.trans (if_pos hreadable)⟩

/-- A text is not found behind a name on the line of its fence if a new line ends the block, nor if
one of its strings holds a fence. -/
theorem inline_name_or_fence_hides_text :
    (⟨"", "json", " ", "\x7b\"a\":1\x7d", "\n", ""⟩ : Fenced).reply =
        "```json \x7b\"a\":1\x7d\n```" ∧
      value? "\x7b\"a\":1\x7d" = some (.object [("a", .number (.int 1 (by decide)))]) ∧
      value? "```json \x7b\"a\":1\x7d\n```" = none ∧
    (⟨"", "json", "\n", "\x7b\"a\":\"```\"\x7d", "\n", ""⟩ : Fenced).reply =
        "```json\n\x7b\"a\":\"```\"\x7d\n```" ∧
      value? "\x7b\"a\":\"```\"\x7d" = some (.object [("a", .string "```")]) ∧
      value? "```json\n\x7b\"a\":\"```\"\x7d\n```" = none := by
  decide +kernel

end Fenced

end ApiScreens.Reply
