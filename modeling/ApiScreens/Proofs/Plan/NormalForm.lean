import ApiScreens.Plan.Normalize
import ApiScreens.Proofs.Distinct
import ApiScreens.Proofs.Plan.Denotation
import ApiScreens.Proofs.Sorting
import Mathlib.Data.List.Pairwise

/-!
# Plans in normal form

Fields compare by a total order in which only fields with the same order and path tie. In a plan in
normal form resources ascend by name, and the fields of each view ascend and have different paths;
such a plan is its own normal form.
-/

namespace ApiScreens

open Std

theorem isLE_compare_iff {s t : String} : (compare s t).isLE = true ↔ ¬ t < s := by
  change (compareOfLessAndEq s t).isLE = true ↔ ¬ t < s
  unfold compareOfLessAndEq
  split
  · rename_i hlt
    simp [String.lt_asymm hlt]
  · rename_i hnlt
    split
    · rename_i heq
      simp [heq]
    · rename_i hne
      have hgt : t < s := Std.lt_of_le_of_ne (String.not_lt.mp hnlt) (Ne.symm hne)
      simp [hgt]

theorem compare_eq_lt_iff {s t : String} : compare s t = .lt ↔ s < t := by
  change compareOfLessAndEq s t = .lt ↔ s < t
  rw [compareOfLessAndEq_eq_lt]

namespace FieldPlan

/-- The place of the order among all orders, the missing one last. -/
def orderRank (f : FieldPlan) : Nat × Int :=
  match f.order with
  | some d => (0, d.rank)
  | none => (1, 0)

theorem fieldOrder_eq : fieldOrder = compareLex (compareOn fun f => f.orderRank.1)
    (compareLex (compareOn fun f => f.orderRank.2) (compareOn (·.path))) := by
  funext a b
  cases ha : a.order with
  | none =>
      cases hb : b.order with
      | none => simp [fieldOrder, compareOrders, compareLex, compareOn, orderRank, ha, hb]
      | some e =>
          simp [fieldOrder, compareOrders, compareLex, compareOn, orderRank, ha, hb]
          rfl
  | some d =>
      cases hb : b.order with
      | none =>
          simp [fieldOrder, compareOrders, compareLex, compareOn, orderRank, ha, hb]
          rfl
      | some e =>
          simp [fieldOrder, compareOrders, compareLex, compareOn, orderRank, Double.totalOrder,
            ha, hb]

instance : TransCmp fieldOrder :=
  fieldOrder_eq ▸ inferInstanceAs (TransCmp (compareLex _ (compareLex _ _)))

/-- A field does not come behind another one if its order does not, or they tie and its path does
not. -/
theorem fieldOrder_isLE_iff {f g : FieldPlan} : (fieldOrder f g).isLE = true ↔
    f.orderRank.1 < g.orderRank.1 ∨ f.orderRank.1 = g.orderRank.1 ∧
      (f.orderRank.2 < g.orderRank.2 ∨ f.orderRank.2 = g.orderRank.2 ∧ ¬ g.path < f.path) := by
  rw [fieldOrder_eq]
  simp only [compareLex, compareOn, Ordering.isLE_then_iff_or, Nat.compare_eq_lt,
    Nat.compare_eq_eq, Int.compare_eq_lt, Int.compare_eq_eq, isLE_compare_iff]

/-- A field stands before another one: its order is earlier, or it has one and the other has none,
or their orders are the same and its path is earlier. -/
inductive Precedes (f g : FieldPlan) : Prop
  | order {d e : Double} (hf : f.order = some d) (hg : g.order = some e)
      (earlier : Double.totalOrder d e = .lt)
  | ordered {d : Double} (hf : f.order = some d) (hg : g.order = none)
  | path (same : f.order = g.order) (earlier : f.path < g.path)

theorem compareOrders_eq_eq {o o' : Option Double} : compareOrders o o' = .eq ↔ o = o' := by
  cases o <;> cases o' <;>
    simp [compareOrders, Double.totalOrder, Double.rank_inj]

/-- Fields are in ascending order exactly if one stands before the other. -/
theorem precedes_iff {f g : FieldPlan} : Precedes f g ↔ fieldOrder f g = .lt := by
  rw [fieldOrder, Ordering.then_eq_lt, compareOrders_eq_eq]
  constructor
  · rintro (⟨hf, hg, earlier⟩ | ⟨hf, hg⟩ | ⟨same, earlier⟩)
    · left
      rwa [hf, hg]
    · left
      rw [hf, hg]
      rfl
    · exact Or.inr ⟨same, compare_eq_lt_iff.mpr earlier⟩
  · rintro (horder | ⟨same, earlier⟩)
    · cases hf : f.order with
      | none =>
          rw [hf] at horder
          cases hg : g.order <;> rw [hg] at horder <;> contradiction
      | some d =>
          cases hg : g.order with
          | none => exact .ordered hf hg
          | some e =>
              rw [hf, hg] at horder
              exact .order hf hg horder
    · exact .path same (compare_eq_lt_iff.mp earlier)

instance (f g : FieldPlan) : Decidable (Precedes f g) := decidable_of_iff _ precedes_iff.symm

/-- Fields that tie have one path. -/
theorem path_eq_of_fieldOrder_eq {f g : FieldPlan} (h : fieldOrder f g = .eq) :
    f.path = g.path := by
  obtain ⟨_, hpath⟩ := Ordering.then_eq_eq.mp h
  exact Std.compare_eq_iff_eq.mp hpath

/-- Sorting fields with different paths puts them in strict order. -/
theorem sort_precedes {fields : List FieldPlan} (h : (fields.map (·.path)).Nodup) :
    (sort fields).Pairwise Precedes := by
  have hpaths : ((sort fields).map (·.path)).Nodup :=
    ((List.mergeSort_perm _ _).map _).nodup_iff.mpr h
  have hascending : (sort fields).Pairwise fun f g => (fieldOrder f g).isLE = true :=
    mergeSort_ascending _
  refine (hascending.and (List.pairwise_map.mp hpaths)).imp ?_
  rintro f g ⟨hle, hne⟩
  rw [precedes_iff]
  exact (Ordering.isLE_iff_eq_lt_or_eq_eq.mp hle).resolve_right (mt path_eq_of_fieldOrder_eq hne)

/-- Sorting finds the strict order of fields if they have one. -/
theorem sort_eq {fields sorted : List FieldPlan} (hperm : fields.Perm sorted)
    (h : sorted.Pairwise Precedes) : sort fields = sorted := by
  have hascending : sorted.Pairwise fun f g => (fieldOrder f g).isLE = true :=
    h.imp fun hfg => Ordering.isLE_of_eq_lt (precedes_iff.mp hfg)
  -- Of two different fields one stands before the other, so they do not tie.
  have hties : ∀ f ∈ sorted, ∀ g ∈ sorted, fieldOrder f g = .eq → f = g := by
    intro f hf g hg htie
    by_contra hne
    have hapart : sorted.Pairwise fun f g => fieldOrder f g ≠ .eq := by
      refine h.imp fun hfg => ?_
      rw [precedes_iff.mp hfg]
      decide
    have hsymm : Std.Symm fun f g : FieldPlan => fieldOrder f g ≠ .eq :=
      ⟨fun f g hfg heq => hfg (OrientedCmp.eq_symm heq)⟩
    exact hapart.forall hf hg hne htie
  calc
    sort fields = sort sorted :=
      (mergeSort_eq_of_perm hties hperm.symm).symm
    _ = sorted := mergeSort_eq_self_iff.mpr hascending

end FieldPlan

namespace ViewPlan

/-- The fields ascend and have different paths. -/
@[mk_iff]
structure Normal (view : ViewPlan) : Prop where
  nodup : (view.fields.map (·.path)).Nodup
  ascending : view.fields.Pairwise fun f g => (FieldPlan.fieldOrder f g).isLE = true

instance (view : ViewPlan) : Decidable view.Normal := decidable_of_iff _ (normal_iff view).symm

theorem normalizeFields_perm (fields : List FieldPlan) :
    (normalizeFields fields).Perm (distinctBy (·.path) fields) := List.mergeSort_perm _ _

theorem mem_of_mem_normalizeFields {fields : List FieldPlan} {f : FieldPlan}
    (h : f ∈ normalizeFields fields) : f ∈ fields :=
  distinctBy_subset fields ((normalizeFields_perm fields).mem_iff.mp h)

theorem normal_normalize (view : ViewPlan) : view.normalize.Normal where
  nodup := ((normalizeFields_perm view.fields).map _).nodup_iff.mpr (distinctBy_keys_nodup _)
  ascending := mergeSort_ascending _

theorem normalize_eq_self_iff {view : ViewPlan} (h : (view.fields.map (·.path)).Nodup) :
    view.normalize = view ↔
      view.fields.Pairwise fun f g => (FieldPlan.fieldOrder f g).isLE = true := by
  rw [← mergeSort_eq_self_iff, normalize, normalizeFields, FieldPlan.sort, distinctBy_eq_self h]
  exact ⟨congrArg ViewPlan.fields, fun h => by rw [h]⟩

theorem Normal.normalize_eq {view : ViewPlan} (h : view.Normal) : view.normalize = view :=
  (normalize_eq_self_iff h.nodup).mpr h.ascending

end ViewPlan

namespace Views

/-- Views are changed only where a view that is there is. -/
theorem map_congr {views : Views} {change change' : ViewPlan → ViewPlan}
    (h : ∀ kind, ∀ view ∈ views.get? kind, change view = change' view) :
    views.map change = views.map change' := by
  obtain ⟨list, detail, create, edit⟩ := views
  have hlist := Option.map_congr (h .list)
  have hdetail := Option.map_congr (h .detail)
  have hcreate := Option.map_congr (h .create)
  have hedit := Option.map_congr (h .edit)
  simp only [get?] at hlist hdetail hcreate hedit
  simp only [map, hlist, hdetail, hcreate, hedit]

theorem map_id (views : Views) : views.map id = views := by
  simp [map]

end Views

namespace Plan

/-- Resources ascend by name, and their views are in normal form. -/
@[mk_iff]
structure Normal (p : Plan) : Prop where
  ascending : p.resources.Pairwise fun r r' => (compare r.name r'.name).isLE = true
  views : ∀ r ∈ p.resources, ∀ kind, ∀ view ∈ r.views.get? kind, view.Normal

instance (p : Plan) : Decidable p.Normal :=
  decidable_of_iff ((p.resources.Pairwise fun r r' => (compare r.name r'.name).isLE = true) ∧
      ∀ r ∈ p.resources, ∀ t ∈ r.views.toList, t.2.Normal)
    ((normal_iff p).trans (and_congr_right fun _ =>
      forall₂_congr fun _ _ => Views.forall_mem_toList_iff.symm)).symm

theorem mem_normalize_resources {p : Plan} {r : ResourcePlan} :
    r ∈ p.normalize.resources ↔ ∃ r' ∈ p.resources, r'.normalize = r := by
  rw [normalize, List.mem_map]
  simp only [(List.mergeSort_perm p.resources _).mem_iff]

theorem EveryField.normalize {P : FieldPlan → Prop} {p : Plan} (h : p.EveryField P) :
    p.normalize.EveryField P := by
  intro r hr
  obtain ⟨before, hbefore, rfl⟩ := mem_normalize_resources.mp hr
  exact (h before hbefore).map fun view hview f hf =>
    hview f (ViewPlan.mem_of_mem_normalizeFields hf)

theorem normal_normalize (p : Plan) : p.normalize.Normal where
  ascending := by
    rw [normalize, List.pairwise_map]
    exact @mergeSort_ascending _ (compareOn ResourcePlan.name) _ p.resources
  views := by
    intro r hr kind view hview
    obtain ⟨r, -, rfl⟩ := mem_normalize_resources.mp hr
    rw [ResourcePlan.normalize, Views.get?_map] at hview
    obtain ⟨view, -, rfl⟩ := Option.mem_map.mp hview
    exact view.normal_normalize

/-- Resources that ascend by name stay in their places. -/
theorem normalize_of_ascending {p : Plan}
    (h : p.resources.Pairwise fun r r' => (compare r.name r'.name).isLE = true) :
    p.normalize = ⟨p.resources.map ResourcePlan.normalize⟩ := by
  have hsort := (@mergeSort_eq_self_iff _ (compareOn ResourcePlan.name) _ p.resources).mpr h
  exact congrArg (fun resources => Plan.mk (resources.map ResourcePlan.normalize)) hsort

/-- A plan in normal form is its own normal form. -/
theorem Normal.normalize_eq {p : Plan} (h : p.Normal) : p.normalize = p := by
  have hresource : ∀ r ∈ p.resources, r.normalize = r := by
    intro r hr
    have hviews : r.views.map ViewPlan.normalize = r.views.map id :=
      Views.map_congr fun kind view hview => (h.views r hr kind view hview).normalize_eq
    rw [ResourcePlan.normalize, hviews, Views.map_id]
  rw [normalize_of_ascending h.ascending, List.map_congr_left hresource, List.map_id']

end Plan

end ApiScreens
