import ApiScreens.Json.Reader
import ApiScreens.Proofs.Text.Lowercase
import Mathlib.Data.List.TakeDrop
import Mathlib.Data.List.TakeWhile
import Mathlib.Data.Option.Basic

/-!
# Scans of JSON texts

A scan goes over a text character by character and knows whether it is inside a string and how many
braces are open. What the reader takes off the front of a text brings the scan back to where it
began, so a text whose scan does not come back is the text of no value.
-/

namespace ApiScreens.Json

/-- Where the scan of a text stands, with the number of braces that are open. -/
inductive Scan
  /-- Outside of strings. -/
  | outside (braces : Nat)
  /-- Inside of a string. -/
  | inside (braces : Nat)
  /-- Inside of a string, behind a backslash. -/
  | escaped (braces : Nat)
  /-- Behind a brace that closes what was open before the scan began. -/
  | closed
  /-- Behind a character that the text of a value does not have there. -/
  | broken
  deriving DecidableEq

namespace Scan

/-- Where a closing brace leads from outside of strings. -/
def close : Nat → Scan
  | 0 => closed
  | braces + 1 => outside braces

/-- Whether a character may stand outside of strings: no fence does, and nothing beyond ASCII. -/
def isBare (c : Char) : Bool := c != '`' && c.toNat < 0x80

/-- The scan of one more character. -/
def step : Scan → Char → Scan
  | outside braces, c =>
    if c = '"' then inside braces
    else if c = '\x7b' then outside (braces + 1)
    else if c = '\x7d' then close braces
    else if isBare c then outside braces
    else broken
  | inside braces, c =>
    if c = '"' then outside braces
    else if c = '\\' then escaped braces
    else if c = '\n' then broken
    else inside braces
  | escaped braces, c => if c = '\n' then broken else inside braces
  | closed, c => if isSpace c then closed else broken
  | broken, _ => broken

/-- The scan of a text. -/
def run (s : Scan) (cs : List Char) : Scan := cs.foldl step s

variable {s : Scan} {braces : Nat} {cs rest : List Char}

@[simp] theorem run_nil : s.run [] = s := rfl
@[simp] theorem run_cons (c : Char) : s.run (c :: cs) = (s.step c).run cs := rfl
@[simp] theorem run_append : s.run (cs ++ rest) = (s.run cs).run rest := List.foldl_append
@[simp] theorem run_broken : broken.run cs = broken := by
  induction cs with
  | nil => rfl
  | cons c cs ih => exact ih

/-- Whether the scan is inside of a string. -/
def inString : Scan → Bool
  | inside _ => true
  | escaped _ => true
  | _ => false

/-- Fences stand in strings only. -/
theorem inString_of_step_fence (h : s.step '`' ≠ broken) : s.inString = true := by
  cases s with
  | inside | escaped => rfl
  | outside | closed | broken => exact absurd rfl h

/-- A new line stands outside of strings and leaves the scan where it is. -/
theorem step_newline (h : s.step '\n' ≠ broken) : s.step '\n' = s ∧ s.inString = false := by
  cases s with
  | outside | closed | broken => exact ⟨rfl, rfl⟩
  | inside | escaped => exact absurd rfl h

/-- Without a quote no string begins. -/
theorem inString_run (h : '"' ∉ cs) (hs : s.inString = false) : (s.run cs).inString = false := by
  induction cs generalizing s with
  | nil => exact hs
  | cons c cs ih =>
      obtain ⟨hc, hcs⟩ := not_or.mp (mt List.mem_cons.mpr h)
      apply ih hcs
      cases s with
      | outside braces =>
          simp only [step, if_neg (Ne.symm hc)]
          split
          · rfl
          · split
            · cases braces <;> rfl
            · split <;> rfl
      | closed =>
          rw [step]
          split <;> rfl
      | broken => rfl
      | inside | escaped => cases hs

theorem forall_isSpace_of_run_closed (h : closed.run cs ≠ broken) : ∀ c ∈ cs, isSpace c = true := by
  induction cs with
  | nil => exact nofun
  | cons c cs ih =>
      rw [run_cons, step] at h
      split at h
      · next hc => exact List.forall_mem_cons.mpr ⟨hc, ih h⟩
      · exact absurd run_broken h

theorem run_closed (h : ∀ c ∈ cs, isSpace c = true) : closed.run cs = closed := by
  induction cs with
  | nil => rfl
  | cons c cs ih =>
      obtain ⟨hc, hcs⟩ := List.forall_mem_cons.mp h
      rw [run_cons, step, if_pos hc, ih hcs]

/-- Whether a character outside of strings leaves the scan where it is. -/
def isPlain (c : Char) : Bool := isBare c && c != '"' && c != '\x7b' && c != '\x7d'

theorem step_outside_of_isPlain {c : Char} (h : isPlain c = true) :
    (outside braces).step c = outside braces := by
  simp only [isPlain, Bool.and_eq_true, bne_iff_ne] at h
  obtain ⟨⟨⟨hbare, hquote⟩, hopen⟩, hclose⟩ := h
  simp [step, hquote, hopen, hclose, hbare]

theorem run_outside_dropWhile {p : Char → Bool} (h : ∀ c, p c = true → isPlain c = true) :
    (outside braces).run (cs.dropWhile p) = (outside braces).run cs := by
  induction cs with
  | nil => rfl
  | cons c cs ih =>
      rw [List.dropWhile_cons]
      split
      · next hc => rw [ih, run_cons, step_outside_of_isPlain (h c hc)]
      · rfl

theorem isPlain_of_isSpace {c : Char} (h : isSpace c = true) : isPlain c = true := by
  simp only [isSpace, Bool.or_eq_true, beq_iff_eq] at h
  rcases h with ((rfl | rfl) | rfl) | rfl <;> rfl

theorem isPlain_of_isDigit {c : Char} (h : c.isDigit = true) : isPlain c = true := by
  obtain ⟨hlow, hhigh⟩ := Text.isDigit_iff.mp h
  have hne : ∀ d : Char, d.toNat < 48 ∨ 57 < d.toNat → c ≠ d := by
    rintro d hd rfl
    omega
  simp [isPlain, isBare, hne]
  omega

theorem run_outside_skipSpace :
    (outside braces).run (skipSpace cs) = (outside braces).run cs :=
  run_outside_dropWhile fun _ => isPlain_of_isSpace

end Scan

open Scan

theorem hexValue?_eq_none {c : Char} (h : c = '"' ∨ c = '\\' ∨ c = '\n') : hexValue? c = none := by
  rcases h with rfl | rfl | rfl <;> rfl

theorem step_inside_of_hexValue? {c : Char} {k braces : Nat} (h : hexValue? c = some k) :
    (inside braces).step c = inside braces := by
  have hne : ¬ (c = '"' ∨ c = '\\' ∨ c = '\n') := by
    intro hc
    rw [hexValue?_eq_none hc] at h
    cases h
  grind [step]

theorem run_inside_of_hexValue4? {a b c d : Char} {k braces : Nat}
    (h : hexValue4? a b c d = some k) : (inside braces).run [a, b, c, d] = inside braces := by
  simp only [hexValue4?, Option.bind_eq_bind, Option.bind_eq_some_iff] at h
  obtain ⟨_, ha, _, hb, _, hc, _, hd, -⟩ := h
  simp [step_inside_of_hexValue? ha, step_inside_of_hexValue? hb, step_inside_of_hexValue? hc,
    step_inside_of_hexValue? hd]

/-- What is left behind a string is left behind the string without its first character. -/
theorem readString_tail {c : Char} {cs s rest : List Char}
    (h : ((readString cs).map fun (s, rest) => (c :: s, rest)) = some (s, rest)) :
    ∃ tail, readString cs = some (tail, rest) := by
  obtain ⟨⟨tail, _⟩, htail, heq⟩ := Option.map_eq_some_iff.mp h
  obtain ⟨-, rfl⟩ := Prod.mk.inj heq
  exact ⟨tail, htail⟩

theorem step_escaped_of_escape? {c e : Char} {braces : Nat} (h : escape? e = some c) :
    (escaped braces).step e = inside braces := by
  have hne : e ≠ '\n' := by
    rintro rfl
    cases h
  simp [step, hne]

theorem run_inside_of_readString {cs s rest : List Char} (h : readString cs = some (s, rest))
    (braces : Nat) : (inside braces).run cs = (outside braces).run rest := by
  fun_induction readString cs generalizing s rest
  case case1 | case3 | case4 | case6 | case7 | case8 | case10 | case12 => cases h
  case case2 =>
    cases h
    rfl
  case case5 a b c d _ hfirst _ e f g k behind _ hsecond _ ih =>
    obtain ⟨tail, htail⟩ := readString_tail h
    calc (inside braces).run ([a, b, c, d] ++ '\\' :: 'u' :: ([e, f, g, k] ++ behind))
        = (inside braces).run ([e, f, g, k] ++ behind) := by
          rw [run_append, run_inside_of_hexValue4? hfirst]
          rfl
      _ = (inside braces).run behind := by rw [run_append, run_inside_of_hexValue4? hsecond]
      _ = (outside braces).run rest := ih htail
  case case9 a b c d behind _ hvalue _ _ ih =>
    obtain ⟨tail, htail⟩ := readString_tail h
    calc (inside braces).run ([a, b, c, d] ++ behind)
        = (inside braces).run behind := by rw [run_append, run_inside_of_hexValue4? hvalue]
      _ = (outside braces).run rest := ih htail
  case case11 e behind _ _ hescape ih =>
    obtain ⟨tail, htail⟩ := readString_tail h
    calc ((escaped braces).step e).run behind
        = (inside braces).run behind := by rw [step_escaped_of_escape? hescape]
      _ = (outside braces).run rest := ih htail
  case case13 c behind hquote _ hslash hcontrol ih =>
    obtain ⟨tail, htail⟩ := readString_tail h
    have hline : c ≠ '\n' := fun hc => hcontrol (hc ▸ by decide)
    have hbackslash : c ≠ '\\' := by
      intro hc
      cases behind with
      | nil => cases htail
      | cons e behind => exact hslash e behind hc rfl
    have hstep : (inside braces).step c = inside braces := by
      simp [step, hline, hbackslash, show c ≠ '"' from hquote]
    rw [run_cons, hstep]
    exact ih htail

/-- Between braces, what a reader takes off the front of a text does not change the scan. -/
def Keeps {α : Type} (read : List Char → Option (α × List Char)) : Prop :=
  ∀ ⦃cs x rest⦄, read cs = some (x, rest) →
    ∀ braces, (outside braces).run cs = (outside braces).run rest

theorem run_outside_cons {c : Char} (h : isPlain c = true) (braces : Nat) (cs : List Char) :
    (outside braces).run (c :: cs) = (outside braces).run cs := by
  rw [run_cons, step_outside_of_isPlain h]

theorem run_outside_of_span {cs ds behind : List Char} (h : cs.span Char.isDigit = (ds, behind))
    (braces : Nat) : (outside braces).run cs = (outside braces).run behind := by
  rw [List.span_eq_takeWhile_dropWhile] at h
  obtain ⟨-, rfl⟩ := Prod.mk.inj h
  exact (run_outside_dropWhile fun _ => isPlain_of_isDigit).symm

theorem keeps_readFraction : Keeps readFraction := by
  intro cs fraction rest h braces
  unfold readFraction at h
  split at h
  · next after =>
    split at h
    next hspan =>
    split at h
    · cases h
    · cases h
      exact (run_outside_cons rfl braces after).trans (run_outside_of_span hspan braces)
  · cases h
    rfl

/-- The sign of an exponent does not change the scan. -/
theorem run_outside_sign {after cs : List Char} {negative : Bool}
    (h : (match after with
      | '-' :: cs => (true, cs)
      | '+' :: cs => (false, cs)
      | cs => (false, cs)) = (negative, cs)) (braces : Nat) :
    (outside braces).run after = (outside braces).run cs := by
  split at h <;> cases h
  · exact run_outside_cons rfl braces cs
  · exact run_outside_cons rfl braces cs
  · rfl

theorem keeps_readExponent : Keeps readExponent := by
  intro cs exponent rest h braces
  unfold readExponent at h
  split at h
  · next c after =>
    split at h
    · next hc =>
      have hplain : isPlain c = true := by rcases hc with rfl | rfl <;> rfl
      split at h
      next hsign =>
      split at h
      next hspan =>
      split at h
      · cases h
      · cases h
        rw [run_outside_cons hplain, run_outside_sign hsign, run_outside_of_span hspan]
    · cases h
      rfl
  · cases h
    rfl

theorem keeps_readLiteral : Keeps readLiteral := by
  intro cs literal rest h braces
  unfold readLiteral at h
  split at h
  next after hsign =>
  split at h
  next hspan =>
  simp only [Option.bind_eq_bind, Option.bind_eq_some_iff, Option.some.injEq, Prod.mk.injEq] at h
  obtain ⟨_, -, ⟨_, _⟩, hfraction, ⟨_, _⟩, hexponent, -, rfl⟩ := h
  have hafter : (outside braces).run cs = (outside braces).run after := by
    split at hsign <;> cases hsign
    · exact run_outside_cons rfl braces after
    · rfl
  calc (outside braces).run cs = (outside braces).run after := hafter
    _ = _ := run_outside_of_span hspan braces
    _ = _ := keeps_readFraction hfraction braces
    _ = _ := keeps_readExponent hexponent braces

theorem keeps_readNumber : Keeps readNumber := by
  intro cs v rest h braces
  simp only [readNumber, Option.bind_eq_bind, Option.bind_eq_some_iff] at h
  obtain ⟨⟨_, _⟩, hliteral, _, -, heq⟩ := h
  cases heq
  exact keeps_readLiteral hliteral braces

theorem keeps_readScalar : Keeps readScalar := by
  intro cs v rest h braces
  unfold readScalar at h
  split at h
  · cases h
    rfl
  · cases h
    rfl
  · cases h
    rfl
  · next behind =>
    obtain ⟨⟨_, _⟩, hstring, heq⟩ := Option.map_eq_some_iff.mp h
    cases heq
    exact run_inside_of_readString hstring braces
  · exact keeps_readNumber h braces

section Containers

variable {value : List Char → Option (Json × List Char)}

theorem run_of_skipSpace {cs : List Char} {c : Char} {behind : List Char}
    (h : skipSpace cs = c :: behind) (braces : Nat) :
    (outside braces).run cs = ((outside braces).step c).run behind := by
  rw [← run_outside_skipSpace, h, run_cons]

/-- The items of an array and its bracket do not change the scan. -/
theorem keeps_readItems (hvalue : Keeps value) (n : Nat) : Keeps (readItems value n) := by
  induction n with
  | zero =>
      intro cs vs rest h
      cases h
  | succ n ih =>
      intro cs vs rest h braces
      simp only [readItems, Option.bind_eq_bind, Option.bind_eq_some_iff] at h
      obtain ⟨⟨v, behind⟩, hv, h⟩ := h
      have hitem : (outside braces).run cs = (outside braces).run behind := by
        rw [← run_outside_skipSpace, hvalue hv]
      rw [hitem]
      split at h
      · next after hcomma =>
        obtain ⟨⟨_, _⟩, hitems, heq⟩ := Option.bind_eq_some_iff.mp h
        cases heq
        rw [run_of_skipSpace hcomma]
        exact ih hitems braces
      · next after hbracket =>
        cases h
        exact run_of_skipSpace hbracket braces
      · cases h

/-- A member does not change the scan. -/
theorem keeps_readMember (hvalue : Keeps value) : Keeps (readMember value) := by
  intro cs m rest h braces
  unfold readMember at h
  split at h
  · next behind hquote =>
    obtain ⟨⟨key, afterKey⟩, hkey, h⟩ := Option.bind_eq_some_iff.mp h
    dsimp only at h
    split at h
    · next after hcolon =>
      obtain ⟨⟨w, last⟩, hv, heq⟩ := Option.bind_eq_some_iff.mp h
      cases heq
      calc (outside braces).run cs
          = (inside braces).run behind := run_of_skipSpace hquote braces
        _ = (outside braces).run afterKey := run_inside_of_readString hkey braces
        _ = (outside braces).run after := run_of_skipSpace hcolon braces
        _ = (outside braces).run (skipSpace after) := run_outside_skipSpace.symm
        _ = (outside braces).run last := hvalue hv braces
    · cases h
  · cases h

/-- The members of an object and its brace close what a brace has opened. -/
theorem run_outside_of_readMembers (hvalue : Keeps value) {n : Nat} {cs rest : List Char}
    {members : Members} (h : readMembers value n cs = some (members, rest)) (braces : Nat) :
    (outside braces).run cs = (close braces).run rest := by
  induction n generalizing cs members with
  | zero => cases h
  | succ n ih =>
      simp only [readMembers, Option.bind_eq_bind, Option.bind_eq_some_iff] at h
      obtain ⟨⟨m, behind⟩, hm, h⟩ := h
      rw [keeps_readMember hvalue hm]
      split at h
      · next after hcomma =>
        obtain ⟨⟨_, _⟩, hmembers, heq⟩ := Option.bind_eq_some_iff.mp h
        cases heq
        rw [run_of_skipSpace hcomma]
        exact ih hmembers
      · next after hbrace =>
        cases h
        exact run_of_skipSpace hbrace braces
      · cases h

/-- What follows the brace of an object closes what the brace has opened. -/
theorem run_outside_of_readWith (hvalue : Keeps value) {cs rest : List Char} {v : Json}
    (h : readWith value ('\x7b' :: cs) = some (v, rest)) (braces : Nat) :
    (outside braces).run cs = (close braces).run rest := by
  rw [readWith] at h
  split at h
  · next hbrace =>
    cases h
    exact run_of_skipSpace hbrace braces
  · obtain ⟨⟨_, _⟩, hmembers, heq⟩ := Option.map_eq_some_iff.mp h
    cases heq
    rw [← run_outside_skipSpace]
    exact run_outside_of_readMembers hvalue hmembers braces

theorem keeps_readWith (hvalue : Keeps value) : Keeps (readWith value) := by
  intro cs v rest h braces
  unfold readWith at h
  split at h
  · next inside =>
    rw [run_outside_cons rfl]
    split at h
    · next hbracket =>
      cases h
      exact run_of_skipSpace hbracket braces
    · obtain ⟨⟨_, _⟩, hitems, heq⟩ := Option.map_eq_some_iff.mp h
      cases heq
      rw [← run_outside_skipSpace]
      exact keeps_readItems hvalue _ hitems braces
  · exact run_outside_of_readWith hvalue h (braces + 1)
  · exact keeps_readScalar h braces

end Containers

theorem keeps_readValue (depth : Nat) : Keeps (readValue depth) := by
  induction depth with
  | zero => exact keeps_readScalar
  | succ depth ih => exact keeps_readWith ih

theorem forall_isSpace_of_skipSpace {cs : List Char} (h : skipSpace cs = []) :
    ∀ c ∈ cs, isSpace c = true := by
  simpa [skipSpace, List.dropWhile_eq_nil_iff] using h

theorem read?_eq_some {text : String} {v : Json} (h : read? text = some v) :
    ∃ w rest, readValue maxDepth (skipSpace text.toList) = some (w, rest) ∧ skipSpace rest = [] := by
  simp only [read?, readWritten?, Option.map_eq_some_iff, Option.bind_eq_bind,
    Option.bind_eq_some_iff] at h
  obtain ⟨_, ⟨⟨w, rest⟩, hvalue, _, hguard, -⟩, -⟩ := h
  have hspace : skipSpace rest = [] := by
    by_contra hne
    simp [guard, hne] at hguard
  exact ⟨w, rest, hvalue, hspace⟩

/-- The scan of the text of a value ends where it began. -/
theorem run_outside_of_read? {text : String} {v : Json} (h : read? text = some v) (braces : Nat) :
    (outside braces).run text.toList = outside braces := by
  obtain ⟨w, rest, hvalue, hrest⟩ := read?_eq_some h
  calc (outside braces).run text.toList
      = (outside braces).run (skipSpace text.toList) := run_outside_skipSpace.symm
    _ = (outside braces).run rest := keeps_readValue maxDepth hvalue braces
    _ = (outside braces).run (skipSpace rest) := run_outside_skipSpace.symm
    _ = outside braces := by rw [hrest, run_nil]

/-- Behind its first brace the text of an object closes what it has opened. -/
theorem run_outside_of_read?_brace {text : String} {v : Json} {inner : List Char}
    (h : read? text = some v) (htext : text.toList = '\x7b' :: inner) :
    (outside 0).run inner = closed := by
  obtain ⟨w, rest, hvalue, hrest⟩ := read?_eq_some h
  rw [htext, skipSpace, List.dropWhile_cons_of_neg (by decide)] at hvalue
  calc (outside 0).run inner
      = closed.run rest := run_outside_of_readWith (keeps_readValue 126) hvalue 0
    _ = closed := run_closed (forall_isSpace_of_skipSpace hrest)

end ApiScreens.Json
