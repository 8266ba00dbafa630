import ApiScreens.Proofs.Text.Lowercase
import ApiScreens.Text.Natural

/-!
# Natural order is a total order

A chunk has a rank, and the chunks that texts consist of compare as their ranks do: a digit run
ranks behind the character `0` by the length and the digits of the number that it writes. So the
natural order is total and transitive, and only equal texts tie in it.
-/

namespace ApiScreens.Text

open Std

namespace Chunk

/-- The chunks of texts: runs of digits that are not empty, and characters that are no digits. -/
def Proper : Chunk → Prop
  | digits run => run ≠ [] ∧ ∀ c ∈ run, c.isDigit = true
  | other c => c.isDigit = false

theorem proper_of_mem_push {c : Char} {chunks : List Chunk} (h : ∀ x ∈ chunks, x.Proper) :
    ∀ x ∈ push c chunks, x.Proper := by
  intro x hx
  unfold push at hx
  split at hx
  · rename_i run rest
    have hrun : (digits run).Proper := h _ List.mem_cons_self
    have hrest : ∀ y ∈ rest, y.Proper := fun y hy => h y (List.mem_cons_of_mem _ hy)
    split at hx
    · rename_i hc
      rcases List.mem_cons.mp hx with rfl | hx
      · refine ⟨List.cons_ne_nil _ _, fun d hd => ?_⟩
        rcases List.mem_cons.mp hd with rfl | hd
        · exact hc
        · exact hrun.2 d hd
      · exact hrest x hx
    · rename_i hc
      rcases List.mem_cons.mp hx with rfl | hx
      · exact Bool.eq_false_iff.mpr hc
      · exact h x hx
  · rcases List.mem_cons.mp hx with rfl | hx
    · split
      · rename_i hc
        exact ⟨List.cons_ne_nil _ _, by simpa using hc⟩
      · rename_i hc
        exact Bool.eq_false_iff.mpr hc
    · exact h x hx

theorem proper_of_mem_ofText {s : List Char} : ∀ x ∈ ofText s, x.Proper := by
  induction s with
  | nil => exact List.forall_mem_nil _
  | cons c rest ih => exact proper_of_mem_push ih

/-- The characters that a chunk ranks by first; all digit runs rank alike. -/
def rankLetters : Chunk → List Char
  | digits _ => ['0']
  | other c => lowercaseChar c

/-- The digits of the number that a digit run writes. -/
def rankDigits : Chunk → List Char
  | digits run => run.dropWhile (· == '0')
  | other _ => []

/-- The order of chunks by rank. -/
def rankOrder : Chunk → Chunk → Ordering :=
  compareLex (compareOn rankLetters)
    (compareLex (compareOn fun x => x.rankDigits.length) (compareOn rankDigits))

instance : TransCmp rankOrder := inferInstanceAs (TransCmp (compareLex _ _))

instance : ReflCmp rankOrder := inferInstanceAs (ReflCmp (compareLex _ _))

theorem compare_char (c d : Char) : compare c d = compare c.toNat d.toNat := by
  simp only [compare, compareOfLessAndEq, Char.lt_def, UInt32.lt_iff_toNat_lt, Char.toNat_val,
    Char.toNat_inj]

/-- Against a character that is no digit all digits compare alike. -/
theorem compare_of_isDigit {d e x : Char} (hd : d.isDigit = true) (he : e.isDigit = true)
    (hx : x.isDigit = false) : compare d x = compare e x ∧ compare d x ≠ .eq := by
  rw [isDigit_iff] at hd he
  rw [Bool.eq_false_iff, ne_eq, isDigit_iff] at hx
  simp only [compare_char, ne_eq, Nat.compare_eq_eq]
  rcases Nat.lt_or_ge x.toNat 48 with hlow | hhigh
  · rw [Nat.compare_eq_gt.mpr (by omega), Nat.compare_eq_gt.mpr (by omega)]
    exact ⟨rfl, by omega⟩
  · rw [Nat.compare_eq_lt.mpr (by omega), Nat.compare_eq_lt.mpr (by omega)]
    exact ⟨rfl, by omega⟩

theorem compareLex_swap (s t : List Char) :
    List.compareLex compare s t = (List.compareLex compare t s).swap :=
  OrientedCmp.eq_swap

/-- A digit run and another character compare by the digit that ranks the run. -/
theorem order_digits_other {run : List Char} {c : Char} (hrun : (digits run).Proper)
    (hc : (other c).Proper) :
    List.compareLex compare (run.take 1) (lowercaseChar c) =
        List.compareLex compare ['0'] (lowercaseChar c) ∧
      List.compareLex compare ['0'] (lowercaseChar c) ≠ .eq := by
  obtain ⟨x, rest, hx, hxd⟩ := lowercaseChar_eq_cons hc
  obtain ⟨d, ds, rfl⟩ := List.exists_cons_of_ne_nil hrun.1
  have hd : d.isDigit = true := hrun.2 d List.mem_cons_self
  obtain ⟨hsame, hne⟩ := compare_of_isDigit hd (e := '0') rfl hxd
  rw [hx, List.take_succ_cons, List.take_zero, List.compareLex_cons_cons,
    List.compareLex_cons_cons, hsame]
  exact ⟨rfl, fun h => hne (hsame.trans (Ordering.then_eq_eq.mp h).1)⟩

theorem then_of_ne_eq {o p : Ordering} (h : o ≠ .eq) : o.then p = o := by
  cases o <;> simp_all

/-- The chunks of texts compare by rank. -/
theorem order_eq_rankOrder {x y : Chunk} (hx : x.Proper) (hy : y.Proper) :
    order x y = rankOrder x y := by
  simp only [rankOrder, compareLex, compareOn]
  cases x with
  | digits a =>
      cases y with
      | digits b => rw [rankLetters, rankLetters, ReflOrd.compare_self]; rfl
      | other d =>
          obtain ⟨hsame, hne⟩ := order_digits_other hx hy
          exact hsame.trans (then_of_ne_eq hne).symm
  | other c =>
      cases y with
      | digits b =>
          obtain ⟨hsame, hne⟩ := order_digits_other hy hx
          have hswap : List.compareLex compare (lowercaseChar c) ['0'] ≠ .eq := by
            rw [compareLex_swap]
            simpa using hne
          refine Eq.trans ?_ (then_of_ne_eq hswap).symm
          calc
            order (other c) (digits b) =
                (List.compareLex compare (b.take 1) (lowercaseChar c)).swap :=
              compareLex_swap _ _
            _ = (List.compareLex compare ['0'] (lowercaseChar c)).swap := by rw [hsame]
            _ = List.compareLex compare (lowercaseChar c) ['0'] :=
              (compareLex_swap _ _).symm
      | other d =>
          simp only [rankLetters, rankDigits, ReflOrd.compare_self, Ordering.then_eq]
          rfl

theorem compareLex_order_eq {xs ys : List Chunk} (hx : ∀ x ∈ xs, x.Proper)
    (hy : ∀ y ∈ ys, y.Proper) :
    List.compareLex order xs ys = List.compareLex rankOrder xs ys := by
  induction xs generalizing ys with
  | nil => cases ys <;> rfl
  | cons x xs ih =>
      cases ys with
      | nil => rfl
      | cons y ys =>
          rw [List.compareLex_cons_cons, List.compareLex_cons_cons,
            order_eq_rankOrder (hx x List.mem_cons_self) (hy y List.mem_cons_self),
            ih (fun z hz => hx z (List.mem_cons_of_mem _ hz))
              (fun z hz => hy z (List.mem_cons_of_mem _ hz))]

/-- The order of texts by the ranks of their chunks, which takes texts with chunks of equal rank
for equal. -/
def textOrder (a b : String) : Ordering :=
  List.compareLex rankOrder (ofText a.toList) (ofText b.toList)

instance : TransCmp textOrder where
  eq_swap {a b} :=
    @OrientedCmp.eq_swap _ (List.compareLex rankOrder) _ (ofText a.toList) (ofText b.toList)
  isLE_trans {a b c} :=
    @TransCmp.isLE_trans _ (List.compareLex rankOrder) _ (ofText a.toList) (ofText b.toList)
      (ofText c.toList)

end Chunk

theorem naturalOrder_eq : naturalOrder = compareLex Chunk.textOrder compare := by
  funext a b
  rw [naturalOrder, Chunk.compareLex_order_eq Chunk.proper_of_mem_ofText
    Chunk.proper_of_mem_ofText]
  rfl

instance : TransCmp naturalOrder :=
  naturalOrder_eq ▸ inferInstanceAs (TransCmp (compareLex Chunk.textOrder compare))

instance : LawfulEqCmp naturalOrder where
  compare_self {a} := by
    rw [naturalOrder_eq, compareLex_eq_eq]
    exact ⟨@ReflCmp.compare_self _ (List.compareLex Chunk.rankOrder) _ _, ReflOrd.compare_self⟩
  eq_of_compare {a b} h := by
    rw [naturalOrder_eq, compareLex_eq_eq] at h
    exact LawfulEqOrd.eq_of_compare h.2

end ApiScreens.Text
