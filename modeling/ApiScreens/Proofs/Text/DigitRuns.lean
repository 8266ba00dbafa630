import ApiScreens.Proofs.Number.DecimalText
import ApiScreens.Proofs.Text.NaturalOrder

/-!
# Digit runs in natural order

Runs of digits compare as the numbers that they write, whatever their lengths and their leading
zeros. So two texts that begin alike without a digit and go on with runs of different value stand in
the order of these values, whatever comes behind the runs.
-/

namespace ApiScreens

namespace Decimal

section Values

variable {c d : Char} {s t : List Char}

theorem digitsValue_cons (c : Char) (s : List Char) :
    digitsValue (c :: s) = (c.toNat - '0'.toNat) * 10 ^ s.length + digitsValue s := by
  rw [digitsValue, Nat.ofDigitChars_cons, Nat.ofDigitChars_eq_ofDigitChars_zero, Nat.mul_zero,
    Nat.zero_add, Nat.mul_comm]
  rfl

theorem allDigits_cons : AllDigits (c :: s) ↔ c.isDigit = true ∧ AllDigits s :=
  List.forall_mem_cons

theorem digitsValue_lt (h : AllDigits s) : digitsValue s < 10 ^ s.length := by
  induction s with
  | nil => exact Nat.one_pos
  | cons c s ih =>
      obtain ⟨hc, hs⟩ := allDigits_cons.mp h
      have hdigit : c.toNat - '0'.toNat ≤ 9 := by
        have hzero : '0'.toNat = 48 := rfl
        have hbounds := Text.isDigit_iff.mp hc
        omega
      have hrest := ih hs
      rw [digitsValue_cons, List.length_cons, Nat.pow_succ]
      nlinarith

/-- A number that does not begin with a zero has as many digits as it needs. -/
theorem pow_le_digitsValue (h : AllDigits (c :: s)) (hc : c ≠ '0') :
    10 ^ s.length ≤ digitsValue (c :: s) := by
  have hdigit : 1 ≤ c.toNat - '0'.toNat := by
    have hzero : '0'.toNat = 48 := rfl
    have hbounds := Text.isDigit_iff.mp (allDigits_cons.mp h).1
    have hne : c.toNat ≠ '0'.toNat := fun heq => hc (Char.toNat_inj.mp heq)
    omega
  rw [digitsValue_cons]
  exact Nat.le_add_right_of_le (Nat.le_mul_of_pos_left _ hdigit)

theorem digitsValue_dropWhile_zero (s : List Char) :
    digitsValue (s.dropWhile (· == '0')) = digitsValue s := by
  induction s with
  | nil => rfl
  | cons c s ih =>
      rw [List.dropWhile_cons]
      split
      · rename_i hc
        rw [beq_iff_eq.mp hc, digitsValue_cons, Nat.sub_self, Nat.zero_mul, Nat.zero_add, ih]
      · rfl

theorem AllDigits.dropWhile (h : AllDigits s) (p : Char → Bool) : AllDigits (s.dropWhile p) :=
  fun c hc => h c ((List.dropWhile_sublist p).subset hc)

/-- Of two numbers without leading zeros the longer one is greater. -/
theorem digitsValue_lt_of_length_lt (hs : AllDigits s) (ht : AllDigits t)
    (hlength : s.length < (t.dropWhile (· == '0')).length) : digitsValue s < digitsValue t := by
  obtain ⟨c, u, hu⟩ := List.exists_cons_of_length_pos (Nat.zero_lt_of_lt hlength)
  have hc : c ≠ '0' := by
    have hhead := List.head_dropWhile_not (· == '0') (hu ▸ List.cons_ne_nil c u)
    simpa [hu] using hhead
  have hdigits : AllDigits (c :: u) := hu ▸ ht.dropWhile _
  rw [hu, List.length_cons, Nat.lt_succ_iff] at hlength
  calc
    digitsValue s < 10 ^ s.length := digitsValue_lt hs
    _ ≤ 10 ^ u.length := Nat.pow_le_pow_right (Nat.succ_pos 9) hlength
    _ ≤ digitsValue (c :: u) := pow_le_digitsValue hdigits hc
    _ = digitsValue t := by rw [← hu, digitsValue_dropWhile_zero]

/-- Numbers of equally many digits compare digit by digit. -/
theorem compareLex_eq_compare_digitsValue (hs : AllDigits s) (ht : AllDigits t)
    (hlength : s.length = t.length) :
    List.compareLex compare s t = compare (digitsValue s) (digitsValue t) := by
  induction s generalizing t with
  | nil =>
      obtain rfl := List.length_eq_zero_iff.mp hlength.symm
      rfl
  | cons c s ih =>
      obtain ⟨d, t, rfl⟩ := List.exists_cons_of_length_eq_add_one hlength.symm
      obtain ⟨hc, hs⟩ := allDigits_cons.mp hs
      obtain ⟨hd, ht⟩ := allDigits_cons.mp ht
      have hrest : s.length = t.length := Nat.succ.inj hlength
      have hslt := digitsValue_lt hs
      have htlt := digitsValue_lt ht
      have hzero : '0'.toNat = 48 := rfl
      have hcbounds := Text.isDigit_iff.mp hc
      have hdbounds := Text.isDigit_iff.mp hd
      rw [List.compareLex_cons_cons, Text.Chunk.compare_char, ih hs ht hrest, digitsValue_cons,
        digitsValue_cons, hrest]
      rw [hrest] at hslt
      rcases Nat.lt_trichotomy c.toNat d.toNat with hlt | heq | hgt
      · have hdigit : c.toNat - '0'.toNat + 1 ≤ d.toNat - '0'.toNat := by omega
        rw [Nat.compare_eq_lt.mpr hlt, Ordering.lt_then, eq_comm, Nat.compare_eq_lt]
        nlinarith
      · rw [heq, Nat.compare_eq_eq.mpr rfl, Ordering.then]
        simp only [Nat.compare_eq_ite_lt, Nat.add_lt_add_iff_left]
      · have hdigit : d.toNat - '0'.toNat + 1 ≤ c.toNat - '0'.toNat := by omega
        rw [Nat.compare_eq_gt.mpr hgt, Ordering.gt_then, eq_comm, Nat.compare_eq_gt]
        nlinarith

end Values

end Decimal

namespace Text

open Decimal

namespace Chunk

/-- Runs of digits compare as the numbers that they write. -/
theorem compareRuns_eq {a b : List Char} (ha : AllDigits a) (hb : AllDigits b) :
    compareRuns a b = compare (digitsValue a) (digitsValue b) := by
  have ha' := ha.dropWhile (· == '0')
  have hb' := hb.dropWhile (· == '0')
  simp only [compareRuns]
  rcases Nat.lt_trichotomy (a.dropWhile (· == '0')).length (b.dropWhile (· == '0')).length with
    hlt | heq | hgt
  · have hvalue := digitsValue_lt_of_length_lt ha' hb hlt
    rw [digitsValue_dropWhile_zero] at hvalue
    rw [Nat.compare_eq_lt.mpr hlt, Nat.compare_eq_lt.mpr hvalue]
    rfl
  · rw [Nat.compare_eq_eq.mpr heq, compareLex_eq_compare_digitsValue ha' hb' heq,
      digitsValue_dropWhile_zero, digitsValue_dropWhile_zero]
    rfl
  · have hvalue := digitsValue_lt_of_length_lt hb' ha hgt
    rw [digitsValue_dropWhile_zero] at hvalue
    rw [Nat.compare_eq_gt.mpr hgt, Nat.compare_eq_gt.mpr hvalue]
    rfl

/-- A character that is no digit is a chunk of its own. -/
theorem ofText_cons_other {c : Char} (hc : c.isDigit = false) (s : List Char) :
    ofText (c :: s) = other c :: ofText s := by
  have hpush (chunks : List Chunk) : push c chunks = other c :: chunks := by
    unfold push
    split <;> simp [hc]
  exact hpush (ofText s)

/-- A run of digits up to the end or to another character. -/
structure IsRun (run rest : List Char) : Prop where
  ne_nil : run ≠ []
  digits : AllDigits run
  maximal : ∀ c, rest.head? = some c → c.isDigit = false

/-- A run of digits is one chunk. -/
theorem ofText_run {run rest : List Char} (h : IsRun run rest) :
    ofText (run ++ rest) = digits run :: ofText rest := by
  obtain ⟨hne, hdigits, hmaximal⟩ := h
  induction run with
  | nil => contradiction
  | cons c run ih =>
      obtain ⟨hc, hrun⟩ := allDigits_cons.mp hdigits
      have hfold : ofText (c :: run ++ rest) = push c (ofText (run ++ rest)) := rfl
      by_cases hend : run = []
      · subst hend
        rw [hfold, List.nil_append]
        cases rest with
        | nil => simp [ofText, push, hc]
        | cons d rest => rw [ofText_cons_other (hmaximal d rfl), push, if_pos hc]; nofun
      · rw [hfold, ih hend hrun, push, if_pos hc]

theorem ofText_append_others {front : List Char} (h : ∀ c ∈ front, c.isDigit = false)
    (s : List Char) : ofText (front ++ s) = front.map other ++ ofText s := by
  induction front with
  | nil => rfl
  | cons c front ih =>
      obtain ⟨hc, hfront⟩ := List.forall_mem_cons.mp h
      rw [List.cons_append, ofText_cons_other hc, ih hfront]
      rfl

/-- Texts that begin alike without a digit compare by what follows. -/
theorem compareLex_append_others (front : List Char) (xs ys : List Chunk) :
    List.compareLex order (front.map other ++ xs) (front.map other ++ ys) =
      List.compareLex order xs ys := by
  induction front with
  | nil => rfl
  | cons c front ih =>
      have hsame : order (other c) (other c) = .eq :=
        @Std.ReflCmp.compare_self _ (List.compareLex compare) _ (lowercaseChar c)
      rw [List.map_cons, List.cons_append, List.cons_append, List.compareLex_cons_cons, hsame, ih]
      rfl

end Chunk

/-- Behind the same text without digits, digit runs of different value decide the order of texts. -/
theorem naturalOrder_of_runs {front run run' rest rest' : List Char}
    (hfront : ∀ c ∈ front, c.isDigit = false) (hrun : Chunk.IsRun run rest)
    (hrun' : Chunk.IsRun run' rest') (hne : digitsValue run ≠ digitsValue run') :
    naturalOrder (String.ofList (front ++ run ++ rest)) (String.ofList (front ++ run' ++ rest')) =
      compare (digitsValue run) (digitsValue run') := by
  have hvalues : compare (digitsValue run) (digitsValue run') ≠ .eq :=
    fun h => hne (Nat.compare_eq_eq.mp h)
  have hchunks : Chunk.order (.digits run) (.digits run') =
      compare (digitsValue run) (digitsValue run') :=
    Chunk.compareRuns_eq hrun.digits hrun'.digits
  rw [naturalOrder, String.toList_ofList, String.toList_ofList, List.append_assoc,
    List.append_assoc, Chunk.ofText_append_others hfront, Chunk.ofText_append_others hfront,
    Chunk.compareLex_append_others, Chunk.ofText_run hrun, Chunk.ofText_run hrun',
    List.compareLex_cons_cons, hchunks, Chunk.then_of_ne_eq hvalues, Chunk.then_of_ne_eq hvalues]

end Text

end ApiScreens
