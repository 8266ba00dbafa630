import ApiScreens.Proofs.Number.TotalOrder
import ApiScreens.Proofs.Plan.Rearrangement

/-!
# Lists of fields in normal form

The normal form of a list of fields holds the first field of every path and no other. Its fields
ascend by the values of their orders and then by path, it is its own normal form, and where fields
with one path are the same it does not depend on how the list was arranged.
-/

namespace ApiScreens

namespace FieldPlan

/-- A field stands ahead of another one: the value of its order is less, or the orders are the zeros
and its own is the negative one, or only it has an order, or the orders are the same and its path is
less. -/
inductive Ahead (f g : FieldPlan) : Prop
  | value {d e : Double} (hf : f.order = some d) (hg : g.order = some e)
      (less : d.extendedValue < e.extendedValue)
  | zero (hf : f.order = some (.zero true)) (hg : g.order = some (.zero false))
  | ordered {d : Double} (hf : f.order = some d) (hg : g.order = none)
  | path (same : f.order = g.order) (less : f.path < g.path)

/-- The order of the field, if it has one, is a number or an infinity. -/
def HasNumber (f : FieldPlan) : Prop := ∀ d ∈ f.order, d.isNaN = false

theorem Precedes.ahead {f g : FieldPlan} (h : f.Precedes g) (hf : f.HasNumber)
    (hg : g.HasNumber) : f.Ahead g := by
  cases h with
  | @order d e hd he earlier =>
      rcases (Double.totalOrder_eq_lt_iff (hf d hd) (hg e he)).mp earlier with
        less | ⟨rfl, rfl⟩
      · exact .value hd he less
      · exact .zero hd he
  | ordered hd he => exact .ordered hd he
  | path same earlier => exact .path same earlier

end FieldPlan

namespace ViewPlan

/-- The normal form of a list of fields has for every path the first field with it, unchanged, and
nothing else. Its fields ascend, and taking the normal form again changes nothing. If fields with
one path are the same, every arrangement of the list has this normal form. -/
theorem normalizeFields_normal_form (fields : List FieldPlan)
    (hnumbers : ∀ f ∈ fields, f.HasNumber) :
    (∀ path, (normalizeFields fields).filter (·.path == path) =
      (fields.find? (·.path == path)).toList) ∧
    (normalizeFields fields).Pairwise FieldPlan.Ahead ∧
    normalizeFields (normalizeFields fields) = normalizeFields fields ∧
    ∀ fields', fields.Perm fields' → (∀ f ∈ fields, ∀ g ∈ fields, f.path = g.path → f = g) →
      normalizeFields fields' = normalizeFields fields := by
  refine ⟨filter_key_eq_find? (normalizeFields_perm fields), ?_, ?_, ?_⟩
  · have hprecedes : (normalizeFields fields).Pairwise FieldPlan.Precedes :=
      FieldPlan.sort_precedes (distinctBy_keys_nodup fields)
    apply hprecedes.imp_of_mem
    intro f g hf hg h
    exact h.ahead (hnumbers f (mem_of_mem_normalizeFields hf))
      (hnumbers g (mem_of_mem_normalizeFields hg))
  · have hnormal : (normalize ⟨fields⟩).normalize = normalize ⟨fields⟩ :=
      (normal_normalize ⟨fields⟩).normalize_eq
    exact congrArg ViewPlan.fields hnormal
  · intro fields' hperm hone
    have hsame : SameFields ⟨fields⟩ ⟨fields'⟩ :=
      sameFields_of_mem_iff hone fun f => hperm.mem_iff
    exact congrArg ViewPlan.fields hsame.normalize_eq.symm

/-- A negative zero, a positive one and no order at all, in two arrangements with a field twice. -/
theorem normalizeFields_normal_form_zeros :
    let price : FieldPlan := ⟨"price", some "", some false, some (.zero false)⟩
    let size : FieldPlan := ⟨"size", none, none, some (.zero true)⟩
    let name : FieldPlan := ⟨"name", none, none, none⟩
    (∀ f ∈ [name, price, size, price], f.HasNumber) ∧
      (∀ f ∈ [name, price, size, price], ∀ g ∈ [name, price, size, price],
        f.path = g.path → f = g) ∧
      [name, price, size, price].Perm [price, price, size, name] ∧
      normalizeFields [price, price, size, name] = [size, price, name] ∧
      [size, price, name].Pairwise FieldPlan.Ahead := by
  intro price size name
  have hnumbers : ∀ f ∈ [name, price, size, price], f.HasNumber := by
    simp [FieldPlan.HasNumber, name, price, size, Double.isNaN, Double.zero]
  have hone : ∀ f ∈ [name, price, size, price], ∀ g ∈ [name, price, size, price],
      f.path = g.path → f = g := by
    decide
  have hperm : [name, price, size, price].Perm [price, price, size, name] := by decide
  have hsorted : normalizeFields [name, price, size, price] = [size, price, name] := by
    apply FieldPlan.sort_eq
    · decide
    · decide +kernel
  obtain ⟨-, hahead, -, harranged⟩ := normalizeFields_normal_form _ hnumbers
  rw [hsorted] at hahead
  exact ⟨hnumbers, hone, hperm, (harranged _ hperm hone).trans hsorted, hahead⟩

end ViewPlan

end ApiScreens
