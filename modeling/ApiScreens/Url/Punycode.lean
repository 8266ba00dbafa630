/-!
# Punycode

The writing of a label in ASCII. Its ASCII characters come first; a number for each other character,
from the lowest code point to the highest, says where it stands and how far its code point lies from
the one before. Numbers are written in digits of base 36, least first, whose thresholds adapt to the
numbers written so far.
-/

namespace ApiScreens.Url.Punycode

/-- The digit of a value below 36: the letters, then the ten digits. -/
def digitChar (n : Nat) : Char :=
  if n < 26 then Char.ofNat ('a'.toNat + n) else Char.ofNat ('0'.toNat + (n - 26))

/-- The value of a digit. -/
def digitValue? (c : Char) : Option Nat :=
  if 'a' ≤ c ∧ c ≤ 'z' then some (c.toNat - 'a'.toNat)
  else if '0' ≤ c ∧ c ≤ '9' then some (c.toNat - '0'.toNat + 26)
  else none

/-- The threshold of a digit: a lower one ends its number. -/
def threshold (place bias : Nat) : Nat := max 1 (min 26 (place - bias))

theorem one_le_threshold (place bias : Nat) : 1 ≤ threshold place bias := Nat.le_max_left _ _

/-- How often a number is divided to come into the range of one digit, and what is left. -/
def scaled (n : Nat) : Nat × Nat :=
  if 455 < n then
    let (times, left) := scaled (n / 35)
    (times + 1, left)
  else (0, n)
termination_by n
decreasing_by exact Nat.div_lt_self (by omega) (by omega)

/-- The bias after a number has been written, the first one or a later one; `count` characters
stand in the text by then. -/
def adapted (number count : Nat) (first : Bool) : Nat :=
  let n := if first then number / 700 else number / 2
  let (times, left) := scaled (n + n / count)
  36 * times + 36 * left / (left + 38)

/-- The digits of a number. -/
def writeNumber (bias place n : Nat) : List Char :=
  let t := threshold place bias
  if n < t then [digitChar n]
  else digitChar (t + (n - t) % (36 - t)) :: writeNumber bias (place + 36) ((n - t) / (36 - t))
termination_by n
decreasing_by
  have := one_le_threshold place bias
  calc (n - threshold place bias) / (36 - threshold place bias)
      ≤ n - threshold place bias := Nat.div_le_self _ _
    _ < n := by omega

/-- What has been written: the text of the numbers, how far the next character lies behind, and
how many characters are done. -/
structure Progress where
  text : List Char
  number : Nat
  bias : Nat
  done : Nat

/-- Passes a character of the label while the characters with a code point are written. -/
def Progress.pass (basic code : Nat) (p : Progress) (c : Char) : Progress :=
  if c.toNat < code then { p with number := p.number + 1 }
  else if c.toNat = code then
    ⟨p.text ++ writeNumber p.bias 36 p.number, 0,
      adapted p.number (p.done + 1) (p.done == basic), p.done + 1⟩
  else p

/-- Writes the characters with some code points, given in ascending order; those below `lower` are
done. -/
def Progress.write (label : List Char) (basic : Nat) : Nat → Progress → List Nat → Progress
  | _, p, [] => p
  | lower, p, code :: rest =>
    let p := { p with number := p.number + (code - lower) * (p.done + 1) }
    let p := label.foldl (Progress.pass basic code) p
    Progress.write label basic (code + 1) { p with number := p.number + 1 } rest

/-- Puts a number into an ascending list, unless it is there. -/
def insertOnce (n : Nat) : List Nat → List Nat
  | [] => [n]
  | m :: rest =>
    if n < m then n :: m :: rest else if n = m then m :: rest else m :: insertOnce n rest

/-- The text of a label. -/
def encode (label : List Char) : List Char :=
  let basic := label.filter (·.toNat < 0x80)
  let codes := (label.filter (0x80 ≤ ·.toNat)).foldl (fun codes c => insertOnce c.toNat codes) []
  let p := Progress.write label basic.length 0x80 ⟨[], 0, 72, basic.length⟩ codes
  basic ++ (if basic.isEmpty then [] else ['-']) ++ p.text

/-- Reads a number; `value` comes from the digits before, and the next one counts `weight`
times. -/
def readNumber? (bias : Nat) : (place weight value : Nat) → List Char → Option (Nat × List Char)
  | _, _, _, [] => none
  | place, weight, value, c :: rest =>
    match digitValue? c with
    | none => none
    | some d =>
      let t := threshold place bias
      if d < t then some (value + d * weight, rest)
      else readNumber? bias (place + 36) (weight * (36 - t)) (value + d * weight) rest

theorem length_lt_of_readNumber? {bias place weight value : Nat} {s : List Char}
    {r : Nat × List Char} (h : readNumber? bias place weight value s = some r) :
    r.2.length < s.length := by
  induction s generalizing place weight value with
  | nil => simp [readNumber?] at h
  | cons c rest ih =>
    rw [readNumber?] at h
    split at h
    · cases h
    · simp only at h
      split at h
      · cases h
        simp
      · have := ih h
        simp
        omega

/-- Reads numbers and puts their characters into the text. -/
def readFrom? (bias code place : Nat) (text s : List Char) : Option (List Char) :=
  if s.isEmpty then some text
  else
    match _h : readNumber? bias 36 1 place s with
    | none => none
    | some (n, rest) =>
      let count := text.length + 1
      let next := code + n / count
      if next.isValidChar then
        readFrom? (adapted (n - place) count (place == 0)) next
          (n % count + 1) (text.insertIdx (n % count) (Char.ofNat next)) rest
      else none
termination_by s.length
decreasing_by exact length_lt_of_readNumber? (by assumption)

/-- The label of a text. -/
def decode? (s : List Char) : Option (List Char) :=
  match s.reverse.span (· != '-') with
  | (_, []) => readFrom? 72 0x80 0 [] s
  | (numbers, _ :: basic) =>
    if basic.isEmpty || !basic.all (·.toNat < 0x80) then none
    else readFrom? 72 0x80 0 basic.reverse numbers.reverse

end ApiScreens.Url.Punycode
