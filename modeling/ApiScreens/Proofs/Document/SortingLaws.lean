import ApiScreens.Proofs.Document.CanonicalOrder
import ApiScreens.Proofs.Text.DigitRuns

/-!
# Laws of the orders that canonical sorting uses

The orders of texts, of strings and numbers, and of named objects are total, and only equal values
tie in them. Digit runs that stand behind the same text order texts by the numbers that they write.
-/

namespace ApiScreens.Canonical

open Decimal (digitsValue)
open Text (naturalOrder)
open Text.Chunk (IsRun)

theorem isTotalOn_naturalOrder : IsTotalOn (fun _ => True) naturalOrder :=
  isTotalOn_of_transCmp (fun _ _ _ _ => rfl) fun _ _ _ _ => Std.LawfulEqCmp.eq_of_compare

theorem isTotalOn_plainOrder :
    IsTotalOn (fun v => (∃ n, v = .number n) ∨ ∃ s, v = .string s) plainOrder := by
  apply @isTotalOn_of_transCmp _ _ _ plainRankOrder
  · intro a b ha hb
    exact plainOrder_eq_plainRankOrder (isPlain_iff.mpr ha) (isPlain_iff.mpr hb)
  · intro a b ha hb
    exact eq_of_plainOrder (isPlain_iff.mpr ha) (isPlain_iff.mpr hb)

theorem isTotalOn_namedOrder :
    IsTotalOn (fun v => v.IsTree ∧ ∃ name, v.get? "name" = some name) namedOrder :=
  isTotalOn_of_transCmp (fun _ _ _ _ => rfl) fun _ _ ha hb => eq_of_namedOrder ha.1 hb.1

/-- The orders of canonical sorting are total orders in which only equal values tie: that of all
texts, that of all strings and numbers, and that of all objects with a name. Texts that begin alike
without a digit and go on with digit runs of different value stand in the order of these values. -/
theorem sorting_orders_total :
    IsTotalOn (fun _ => True) naturalOrder ∧
    (∀ front run run' rest rest' : List Char, (∀ c ∈ front, c.isDigit = false) →
      IsRun run rest → IsRun run' rest' → digitsValue run ≠ digitsValue run' →
      naturalOrder (String.ofList (front ++ run ++ rest))
        (String.ofList (front ++ run' ++ rest')) = compare (digitsValue run) (digitsValue run')) ∧
    IsTotalOn (fun v => (∃ n, v = .number n) ∨ ∃ s, v = .string s) plainOrder ∧
    IsTotalOn (fun v => v.IsTree ∧ ∃ name, v.get? "name" = some name) namedOrder := by
  refine ⟨isTotalOn_naturalOrder, ?_, isTotalOn_plainOrder, isTotalOn_namedOrder⟩
  intro front run run' rest rest' hfront hrun hrun' hne
  exact Text.naturalOrder_of_runs hfront hrun hrun' hne

/-- Leading zeros do not count, an integer and a double of the same value do not tie, and neither do
the name `null` and the missing value of that text. -/
theorem sorting_orders_total_close :
    let one : Json := .number (.int 1 (by decide))
    let onePointZero : Json := .number (.double (Double.ofInt 1) (by decide))
    let absent : Json := .object [("name", .null)]
    let written : Json := .object [("name", .string "null")]
    naturalOrder "item9a" "item0010" = .lt ∧ plainOrder one onePointZero ≠ .eq ∧
      sortName absent = sortName written ∧ namedOrder absent written ≠ .eq := by
  intro one onePointZero absent written
  obtain ⟨-, hruns, hplain, hnamed⟩ := sorting_orders_total
  refine ⟨?_, ?_, by decide +kernel, ?_⟩
  · have hrun : IsRun ['9'] ['a'] := ⟨nofun, by simp [Decimal.AllDigits], by simp⟩
    have hrun' : IsRun ['0', '0', '1', '0'] [] := ⟨nofun, by simp [Decimal.AllDigits], nofun⟩
    have hfront : ∀ c ∈ ['i', 't', 'e', 'm'], c.isDigit = false := by simp
    have horder := hruns _ _ _ _ _ hfront hrun hrun' (by decide)
    have hleft : String.ofList (['i', 't', 'e', 'm'] ++ ['9'] ++ ['a']) = "item9a" := rfl
    have hright : String.ofList (['i', 't', 'e', 'm'] ++ ['0', '0', '1', '0'] ++ []) =
        "item0010" := rfl
    rw [hleft, hright] at horder
    rw [horder]
    decide
  · intro h
    have heq := (hplain.eq_iff one onePointZero (Or.inl ⟨_, rfl⟩) (Or.inl ⟨_, rfl⟩)).mp h
    exact absurd heq (by decide)
  · intro h
    have heq := (hnamed.eq_iff absent written ⟨by decide, _, rfl⟩ ⟨by decide, _, rfl⟩).mp h
    exact absurd heq (by decide)

end ApiScreens.Canonical
