import ApiScreens.Proofs.Plan.Acceptance
import ApiScreens.Proofs.Plan.NormalForm
import ApiScreens.Proofs.Plan.WrittenPlan

/-!
# Storing plans in normal form

A plan in normal form that is written, read and normalized again has the same text exactly if no
view holds a field with a negative zero as its order and one with a positive zero and a path before
the other's: the fields are sorted apart, but both zeros are written alike.
-/

namespace ApiScreens

open Std

namespace Double

theorem rank_eq_neg_one_iff {d : Double} : d.rank = -1 ↔ d = zero true := by
  rw [← rank_inj]
  rfl

theorem rank_eq_zero_iff {d : Double} : d.rank = 0 ↔ d = zero false := by
  rw [← rank_inj]
  rfl

theorem rank_withoutZeroSign (d : Double) :
    d.withoutZeroSign.rank = if d.rank = -1 then 0 else d.rank := by
  obtain ⟨negative, magnitude, hlt⟩ := d
  by_cases h : magnitude = 0
  · subst h
    cases negative <;> rfl
  · rw [withoutZeroSign_of_ne_zero h, if_neg]
    cases negative <;> simp [rank]
    omega

end Double

namespace FieldPlan

/-- Both orders are zeros that are written alike, and the paths stand the other way round. -/
def Crosses (f g : FieldPlan) : Prop :=
  f.order = some (Double.zero true) ∧ g.order = some (Double.zero false) ∧ g.path < f.path

instance (f g : FieldPlan) : Decidable (f.Crosses g) := inferInstanceAs (Decidable (_ ∧ _ ∧ _))

theorem orderRank_withoutZeroSign (f : FieldPlan) : f.withoutZeroSign.orderRank =
    (f.orderRank.1, if f.orderRank.2 = -1 then 0 else f.orderRank.2) := by
  cases h : f.order with
  | none => simp [withoutZeroSign, orderRank, h]
  | some d => simp [withoutZeroSign, orderRank, h, Double.rank_withoutZeroSign]

theorem crosses_iff {f g : FieldPlan} : f.Crosses g ↔
    f.orderRank = (0, -1) ∧ g.orderRank = (0, 0) ∧ g.path < f.path := by
  have hneg : f.order = some (Double.zero true) ↔ f.orderRank = (0, -1) := by
    cases h : f.order with
    | none => simp [orderRank, h]
    | some d => simp [orderRank, h, Double.rank_eq_neg_one_iff]
  have hpos : g.order = some (Double.zero false) ↔ g.orderRank = (0, 0) := by
    cases h : g.order with
    | none => simp [orderRank, h]
    | some d => simp [orderRank, h, Double.rank_eq_zero_iff]
  rw [Crosses, hneg, hpos]

theorem orderRank_of_missing (f : FieldPlan) :
    f.orderRank.1 = 0 ∨ f.orderRank.1 = 1 ∧ f.orderRank.2 = 0 := by
  cases h : f.order <;> simp [orderRank, h]

/-- Fields in order are in order without the signs of zeros, unless they cross. -/
theorem fieldOrder_withoutZeroSign_isLE_iff {f g : FieldPlan}
    (h : (fieldOrder f g).isLE = true) :
    (fieldOrder f.withoutZeroSign g.withoutZeroSign).isLE = true ↔ ¬ f.Crosses g := by
  have hf := f.orderRank_of_missing
  have hg := g.orderRank_of_missing
  rw [fieldOrder_isLE_iff] at h ⊢
  rw [orderRank_withoutZeroSign, orderRank_withoutZeroSign, crosses_iff, Prod.ext_iff, Prod.ext_iff]
  change _ ∨ _ ∧ (_ ∨ _ ∧ ¬ g.path < f.path) ↔ ¬ ((_ ∧ _) ∧ (_ ∧ _) ∧ _)
  generalize f.orderRank = a at h hf ⊢
  generalize g.orderRank = b at h hg ⊢
  -- Paths decide only between the two zeros, which are neighbours among the ranks of orders.
  by_cases hbefore : g.path < f.path
  · simp only [hbefore, not_true_eq_false, and_true, and_false, or_false] at h ⊢
    split <;> split <;> omega
  · simp only [hbefore, not_false_eq_true, and_true, and_false, iff_true] at h ⊢
    split <;> split <;> omega

theorem Crosses.not_isLE {f g : FieldPlan} (h : f.Crosses g) : ¬ (fieldOrder g f).isLE = true := by
  obtain ⟨hf, hg, -⟩ := crosses_iff.mp h
  simp [fieldOrder_isLE_iff, hf, hg]

theorem path_eq_of_toJson {f g : FieldPlan} (h : f.toJson = g.toJson) : f.path = g.path := by
  simp only [toJson, List.cons_append, List.nil_append, Json.object.injEq, List.cons.injEq,
    Prod.mk.injEq, Json.string.injEq, true_and] at h
  exact h.1

end FieldPlan

namespace ViewPlan

/-- No two fields of the view have zeros as orders that are written alike and paths that stand the
other way round. -/
def Uncrossed (view : ViewPlan) : Prop := ∀ f ∈ view.fields, ∀ g ∈ view.fields, ¬ f.Crosses g

instance (view : ViewPlan) : Decidable view.Uncrossed :=
  inferInstanceAs (Decidable (∀ f ∈ view.fields, ∀ g ∈ view.fields, ¬ f.Crosses g))

theorem toJson_withoutZeroSigns (view : ViewPlan) : view.withoutZeroSigns.toJson = view.toJson := by
  simp [toJson, withoutZeroSigns, FieldPlan.toJson_withoutZeroSign]

theorem paths_withoutZeroSigns (view : ViewPlan) :
    view.withoutZeroSigns.fields.map (·.path) = view.fields.map (·.path) := by
  simp [withoutZeroSigns, FieldPlan.withoutZeroSign]

theorem paths_eq_of_toJson {v w : ViewPlan} (h : v.toJson = w.toJson) :
    v.fields.map (·.path) = w.fields.map (·.path) := by
  simp only [toJson, Json.object.injEq, List.cons.injEq, Prod.mk.injEq, Json.array.injEq, and_true,
    true_and] at h
  rw [← List.forall₂_eq_eq_eq, List.forall₂_map_left_iff, List.forall₂_map_right_iff] at h ⊢
  exact h.imp fun _ _ => FieldPlan.path_eq_of_toJson

/-- A view with different paths has the text of its normal form only if it is its normal form. -/
theorem toJson_normalize_eq_iff {view : ViewPlan} (h : (view.fields.map (·.path)).Nodup) :
    view.normalize.toJson = view.toJson ↔ view.normalize = view := by
  constructor
  · intro heq
    have hperm := normalizeFields_perm view.fields
    rw [distinctBy_eq_self h] at hperm
    have hfields := eq_of_perm_of_map_eq h hperm.symm (paths_eq_of_toJson heq).symm
    exact congrArg ViewPlan.mk hfields.symm
  · exact congrArg toJson

/-- Fields that ascend do so without the signs of zeros if no two of them cross. -/
theorem ascending_withoutZeroSigns_iff {view : ViewPlan} (h : view.Normal) :
    (view.withoutZeroSigns.fields.Pairwise fun f g => (FieldPlan.fieldOrder f g).isLE = true) ↔
      view.Uncrossed := by
  rw [withoutZeroSigns, List.pairwise_map]
  constructor
  · intro hpairs f hf g hg hcross
    obtain ⟨i, hi, rfl⟩ := List.mem_iff_getElem.mp hf
    obtain ⟨j, hj, rfl⟩ := List.mem_iff_getElem.mp hg
    rcases Nat.lt_trichotomy i j with hlt | rfl | hgt
    · have hle := List.pairwise_iff_getElem.mp h.ascending i j hi hj hlt
      have hle' := List.pairwise_iff_getElem.mp hpairs i j hi hj hlt
      exact (FieldPlan.fieldOrder_withoutZeroSign_isLE_iff hle).mp hle' hcross
    · exact String.lt_irrefl _ hcross.2.2
    · exact hcross.not_isLE (List.pairwise_iff_getElem.mp h.ascending j i hj hi hgt)
  · intro huncrossed
    refine h.ascending.imp_of_mem fun hf hg hle => ?_
    exact (FieldPlan.fieldOrder_withoutZeroSign_isLE_iff hle).mpr (huncrossed _ hf _ hg)

theorem toJson_normalize_withoutZeroSigns_iff {view : ViewPlan} (h : view.Normal) :
    view.withoutZeroSigns.normalize.toJson = view.toJson ↔ view.Uncrossed := by
  have hnodup : (view.withoutZeroSigns.fields.map (·.path)).Nodup :=
    view.paths_withoutZeroSigns ▸ h.nodup
  calc
    view.withoutZeroSigns.normalize.toJson = view.toJson
      ↔ view.withoutZeroSigns.normalize.toJson = view.withoutZeroSigns.toJson := by
        rw [view.toJson_withoutZeroSigns]
    _ ↔ view.withoutZeroSigns.normalize = view.withoutZeroSigns := toJson_normalize_eq_iff hnodup
    _ ↔ view.withoutZeroSigns.fields.Pairwise fun f g => (FieldPlan.fieldOrder f g).isLE = true :=
        normalize_eq_self_iff hnodup
    _ ↔ view.Uncrossed := ascending_withoutZeroSigns_iff h

end ViewPlan

namespace Views

theorem toList_map (views : Views) (change : ViewPlan → ViewPlan) :
    (views.map change).toList = views.toList.map fun (kind, view) => (kind, change view) := by
  simp only [toList, get?_map, List.map_filterMap, Option.map_map]
  rfl

/-- Changing views keeps their text if it keeps the text of each. -/
theorem toJson_map_eq_iff {views : Views} {change : ViewPlan → ViewPlan} :
    (views.map change).toJson = views.toJson ↔
      ∀ kind, ∀ view ∈ views.get? kind, (change view).toJson = view.toJson := by
  simp only [toJson, toList_map, Json.object.injEq, List.map_map, List.map_inj_left]
  constructor
  · intro h kind view hview
    exact (Prod.mk.inj (h (kind, view) (mem_toList.mpr hview))).2
  · intro h (kind, view) hview
    exact Prod.ext rfl (h kind view (mem_toList.mp hview))

end Views

namespace ResourcePlan

theorem toJson_eq_iff {r r' : ResourcePlan} :
    r.toJson = r'.toJson ↔ r.name = r'.name ∧ r.views.toJson = r'.views.toJson := by
  simp [toJson]

theorem normalize_withoutZeroSigns (r : ResourcePlan) : r.withoutZeroSigns.normalize =
    { r with views := r.views.map fun view => view.withoutZeroSigns.normalize } := by
  simp [normalize, withoutZeroSigns, Views.map, Function.comp_def]

end ResourcePlan

namespace Plan

/-- No two fields of one view cross. -/
def Uncrossed (p : Plan) : Prop :=
  ∀ r ∈ p.resources, ∀ kind, ∀ view ∈ r.views.get? kind, view.Uncrossed

instance (p : Plan) : Decidable p.Uncrossed :=
  decidable_of_iff (∀ r ∈ p.resources, ∀ t ∈ r.views.toList, t.2.Uncrossed)
    (forall₂_congr fun _ _ => Views.forall_mem_toList_iff)

/-- A plan in normal form keeps its text when it is normalized without the signs of zeros exactly if
no two fields of a view cross. -/
theorem toJson_normalize_withoutZeroSigns_iff {p : Plan} (h : p.Normal) :
    p.withoutZeroSigns.normalize.toJson = p.toJson ↔ p.Uncrossed := by
  have hascending : p.withoutZeroSigns.resources.Pairwise
      fun r r' => (compare r.name r'.name).isLE = true := List.pairwise_map.mpr h.ascending
  rw [normalize_of_ascending hascending, withoutZeroSigns]
  simp only [toJson, Json.object.injEq, List.cons.injEq, Prod.mk.injEq, Json.array.injEq, and_true,
    true_and, List.map_map, List.map_inj_left]
  refine forall₂_congr fun r hr => ?_
  change r.withoutZeroSigns.normalize.toJson = r.toJson ↔ _
  rw [ResourcePlan.normalize_withoutZeroSigns, ResourcePlan.toJson_eq_iff, Views.toJson_map_eq_iff]
  simp only [true_and]
  refine forall_congr' fun kind => forall₂_congr fun view hview => ?_
  exact ViewPlan.toJson_normalize_withoutZeroSigns_iff (h.views r hr kind view hview)

/-- Neither normalizing a plan nor dropping the signs of zeros makes a text of it blank. -/
theorem not_blankAt_stored {p : Plan} (h : ∀ place, ¬ p.BlankAt place) :
    ∀ place, ¬ p.normalize.withoutZeroSigns.BlankAt place := by
  rw [forall_not_blankAt_iff] at h ⊢
  intro stored hstored
  obtain ⟨normalized, hnormalized, rfl⟩ := List.mem_map.mp hstored
  obtain ⟨r, hr, rfl⟩ := mem_normalize_resources.mp hnormalized
  obtain ⟨hname, hpaths⟩ := h r hr
  have hsorted : r.normalize.views.EveryField fun f => Text.isBlankText f.path = false :=
    hpaths.map fun view hview f hf => hview f (ViewPlan.mem_of_mem_normalizeFields hf)
  refine ⟨hname, hsorted.map fun view hview => ?_⟩
  exact List.forall_mem_map.mpr hview

/-- A plan that is accepted is stored in normal form: what is written is accepted again, and has the
same text when it is normalized again exactly if no two fields of a view cross. The written text
reads back if the orders in it that are no integers do. -/
theorem ofJson_toJson_normalize {payload : Json} (hpayload : payload.IsTree) {p : Plan}
    (h : ofJson payload = .ok p) :
    (∃ stored, ofJson p.normalize.toJson.sorted = .ok stored ∧
      (stored.normalize.toJson.compact = p.normalize.toJson.compact ↔ p.normalize.Uncrossed)) ∧
    (p.normalize.EveryField FieldPlan.OrderReadsBack →
      Json.read? p.normalize.toJson.compact = some p.normalize.toJson.sorted) := by
  obtain ⟨p, hread, hchecked⟩ := bind_eq_ok.mp h
  obtain ⟨rfl, hblank⟩ := checked_eq_ok_iff.mp hchecked
  have hdenotes := (read_eq_ok_iff hpayload).mp (mapError_eq_ok.mp hread)
  have hfinite := hdenotes.finite.normalize
  refine ⟨⟨p.normalize.withoutZeroSigns, ?accepted, ?text⟩, read?_toJson_compact hfinite⟩
  case accepted =>
    rw [ofJson_eq_of_denotes (Json.isTree_sorted _) (denotes_toJson hfinite)]
    exact checked_eq_ok_iff.mpr ⟨rfl, not_blankAt_stored hblank⟩
  case text =>
    rw [← toJson_normalize_withoutZeroSigns_iff p.normal_normalize]
    exact ⟨Json.compact_inj, congrArg Json.compact⟩

theorem ofJson_toJson_normalize_sample :
    let payload : Json := .object [("resources", .array [.array [.string "Pets", .object [
      ("list", .object [("fields", .array [.array [.string "id", .null, .null,
        .number (.int 0 (by decide))], .object [
          ("order", .number (.double ⟨false, 0x3FF8000000000000, by decide⟩ (by decide))),
          ("path", .string "age")]])])]]])]
    let plan : Plan := ⟨[⟨"Pets", ⟨some ⟨[⟨"id", none, none, some (.zero false)⟩,
      ⟨"age", none, none, some ⟨false, 0x3FF8000000000000, by decide⟩⟩]⟩, none, none, none⟩⟩]⟩
    payload.IsTree ∧ ofJson payload = .ok plan ∧
      (∃ stored, ofJson plan.normalize.toJson.sorted = .ok stored ∧
        stored.normalize.toJson.compact = plan.normalize.toJson.compact) ∧
      Json.read? plan.normalize.toJson.compact = some plan.normalize.toJson.sorted := by
  intro payload plan
  have hpayload : payload.IsTree := by decide
  have hplan : ofJson payload = .ok plan := rfl
  have hnormal : plan.normalize = plan := Normal.normalize_eq (by decide)
  have hhalf :
      (Json.Number.double ⟨false, 0x3FF8000000000000, by decide⟩ (by decide)).ReadsBack := by
    apply @Json.Number.readsBack_of_point _ false ['1'] ['5']
    · decide +kernel
    · simp [Decimal.AllDigits]
    · decide
    · simp [Decimal.AllDigits]
    · decide +kernel
  have horders : plan.EveryField FieldPlan.OrderReadsBack := by
    intro r hr kind view hview f hf d hd hsmall hfinite
    obtain rfl := List.mem_singleton.mp hr
    cases kind with
    | list =>
        obtain rfl := Option.some.inj hview
        rcases List.mem_pair.mp hf with rfl | rfl
        · obtain rfl := Option.some.inj hd
          exact absurd hsmall (by decide)
        · obtain rfl := Option.some.inj hd
          exact hhalf
    | _ => cases hview
  obtain ⟨⟨stored, hstored, htext⟩, hread⟩ := ofJson_toJson_normalize hpayload hplan
  rw [hnormal] at hstored htext hread ⊢
  exact ⟨hpayload, hplan, ⟨stored, hstored, htext.mpr (by decide)⟩, hread horders⟩

theorem negative_zero_moves :
    ∃ payload p stored, payload.IsTree ∧ ofJson payload = .ok p ∧
      ofJson p.normalize.toJson.sorted = .ok stored ∧
      stored.normalize.toJson.compact ≠ p.normalize.toJson.compact := by
  let payload : Json := .object [("resources", .array [.array [.string "Pets", .object [
      ("list", .object [("fields", .array [
        .array [.string "id", .null, .null, .number (.double (.zero true) (by decide))],
        .array [.string "age", .null, .null, .number (.double (.zero false) (by decide))]])])]]])]
  let p : Plan := ⟨[⟨"Pets", ⟨some ⟨[⟨"id", none, none, some (.zero true)⟩,
      ⟨"age", none, none, some (.zero false)⟩]⟩, none, none, none⟩⟩]⟩
  have hnormal : p.Normal := by decide
  refine ⟨payload, p, p.withoutZeroSigns, by decide, rfl, ?_, ?_⟩
  · rw [hnormal.normalize_eq]
    rfl
  · rw [hnormal.normalize_eq]
    intro heq
    have huncrossed := (toJson_normalize_withoutZeroSigns_iff hnormal).mp (Json.compact_inj heq)
    exact absurd huncrossed (by decide)

end Plan

end ApiScreens
