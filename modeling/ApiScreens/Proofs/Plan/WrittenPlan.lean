import ApiScreens.Proofs.Json.WrittenRecord
import ApiScreens.Proofs.Number.Whole
import ApiScreens.Proofs.Plan.Denotation

/-!
# Reading written plans

The JSON form of a plan writes the plan again, but a negative zero as an order has lost its sign:
a whole order is written as an integer.
-/

namespace ApiScreens

open Json (Optionally WritesRecord)

namespace Json.Number

/-- A number is nearest to a finite double. -/
theorem isFinite_toDouble (n : Number) : n.toDouble.isFinite = true := by
  cases n with
  | int n bounds => exact Double.isFinite_ofInt (by omega)
  | double d finite => exact finite

end Json.Number

namespace FieldPlan

theorem orderJson_of_small {d : Double} {n : Int} (h : d.toSmallInt? = some n) :
    ∃ bounds, orderJson d = .number (.int n bounds) := by
  have hlt := Double.natAbs_lt_of_toSmallInt? h
  have bounds : -0x8000000000000000 ≤ n ∧ n < 0x10000000000000000 := by
    unfold Double.fractions at hlt
    omega
  refine ⟨bounds, ?_⟩
  rw [orderJson, h, Option.bind_some, Json.Number.ofInt?_eq_some bounds]

theorem orderJson_of_not_small {d : Double} (h : d.toSmallInt? = none) (hd : d.isFinite = true) :
    orderJson d = .number (.double d hd) := by
  simp [orderJson, h, Json.Number.ofDouble?, hd]

/-- An order is written as a number that is nearest to the order without the sign of zero. -/
theorem exists_orderJson_eq {d : Double} (hd : d.isFinite = true) :
    ∃ n, orderJson d = .number n ∧ n.toDouble = d.withoutZeroSign := by
  cases h : d.toSmallInt? with
  | some n =>
      obtain ⟨bounds, hwritten⟩ := orderJson_of_small h
      exact ⟨_, hwritten, Double.ofInt_of_toSmallInt? h⟩
  | none =>
      have hne : d.magnitude ≠ 0 := by
        intro hzero
        rw [Double.toSmallInt?_of_zero hzero] at h
        contradiction
      exact ⟨_, orderJson_of_not_small h hd, (Double.withoutZeroSign_of_ne_zero hne).symm⟩

theorem orderJson_withoutZeroSign (d : Double) : orderJson d.withoutZeroSign = orderJson d := by
  by_cases h : d.magnitude = 0
  · rw [Double.withoutZeroSign_of_zero h, Double.eq_zero_of_magnitude h]
    cases d.negative <;> rfl
  · rw [Double.withoutZeroSign_of_ne_zero h]

/-- The field, with zero as its order taken as the positive one. -/
def withoutZeroSign (f : FieldPlan) : FieldPlan :=
  { f with order := f.order.map Double.withoutZeroSign }

theorem toJson_withoutZeroSign (f : FieldPlan) : f.withoutZeroSign.toJson = f.toJson := by
  simp [toJson, withoutZeroSign, Function.comp_def, orderJson_withoutZeroSign]

/-- The order of the field is a number. -/
def Finite (f : FieldPlan) : Prop := ∀ d ∈ f.order, d.isFinite = true

theorem Denotes.finite {v : Json} {f : FieldPlan} (h : Denotes v f) : f.Finite := by
  obtain ⟨entries, -, hgiven⟩ := h
  intro d hd
  obtain ⟨_, n, -, rfl⟩ := hgiven.order.exists_entry hd
  exact n.isFinite_toDouble

theorem toJson_eq (f : FieldPlan) : f.toJson = .object ([("path", .string f.path)] ++
    Json.membersOf [("label", f.label.map .string), ("readOnly", f.readOnly.map .bool),
      ("order", f.order.map orderJson)]) := by
  simp [toJson, Json.membersOf]

/-- The JSON form of a field writes the field without the sign of zero. -/
theorem denotes_toJson {f : FieldPlan} (h : f.Finite) :
    Denotes f.toJson.sorted f.withoutZeroSign := by
  obtain ⟨entries, hwrites, hrequired, hoptional⟩ := Json.exists_writesRecord
    [("path", .string f.path)] [("label", f.label.map .string), ("readOnly", f.readOnly.map .bool),
      ("order", f.order.map orderJson)] (by simp)
  simp only [List.forall_mem_cons, Option.map_map] at hrequired hoptional
  obtain ⟨hlabel, hreadOnly, horder, -⟩ := hoptional
  rw [toJson_eq]
  refine ⟨entries, hwrites, ?path, ?label, ?readOnly, ?order⟩
  case path =>
    rw [hrequired.1]
    exact .entry rfl
  case label =>
    rw [hlabel]
    exact Json.optionally_map_self fun _ => rfl
  case readOnly =>
    rw [hreadOnly]
    exact Json.optionally_map_self fun _ => rfl
  case order =>
    rw [horder]
    apply Json.optionally_map
    intro d hd
    obtain ⟨n, hn, hdouble⟩ := exists_orderJson_eq (h d hd)
    exact ⟨n, by rw [Function.comp_apply, hn]; rfl, hdouble⟩

/-- An order that is not written as an integer reads back. -/
def OrderReadsBack (f : FieldPlan) : Prop :=
  ∀ d ∈ f.order, d.toSmallInt? = none →
    ∀ hd : d.isFinite = true, (Json.Number.double d hd).ReadsBack

theorem readsBack_toJson {f : FieldPlan} (hfinite : f.Finite) (horder : f.OrderReadsBack)
    (depth : Nat) : f.toJson.ReadsBack (depth + 1) := by
  rw [toJson_eq]
  apply Json.ReadsBack.ofMembers
  · simp only [List.forall_mem_singleton]
    exact .string f.path
  · simp only [List.forall_mem_cons, Option.mem_map]
    refine ⟨?label, ?readOnly, ?order, nofun⟩
    case label =>
      rintro _ ⟨s, -, rfl⟩
      exact .string s
    case readOnly =>
      rintro _ ⟨b, -, rfl⟩
      exact .bool b
    case order =>
      rintro _ ⟨d, hd, rfl⟩
      cases h : d.toSmallInt? with
      | some n =>
          obtain ⟨bounds, hwritten⟩ := orderJson_of_small h
          rw [hwritten]
          exact .number (Json.Number.readsBack_int bounds)
      | none =>
          rw [orderJson_of_not_small h (hfinite d hd)]
          exact .number (horder d hd h (hfinite d hd))

end FieldPlan

namespace ViewPlan

/-- The view, with zeros as orders taken as the positive one. -/
def withoutZeroSigns (view : ViewPlan) : ViewPlan := ⟨view.fields.map FieldPlan.withoutZeroSign⟩

theorem Denotes.finite {v : Json} {view : ViewPlan} (h : Denotes v view) :
    ∀ f ∈ view.fields, f.Finite := by
  obtain ⟨entries, -, hgiven⟩ := h
  obtain ⟨_, hfields⟩ := hgiven.fields.exists_entry
  intro f hf
  obtain ⟨_, hdenotes⟩ := hfields.exists_item hf
  exact hdenotes.finite

theorem denotes_toJson {view : ViewPlan} (h : ∀ f ∈ view.fields, f.Finite) :
    Denotes view.toJson.sorted view.withoutZeroSigns := by
  obtain ⟨entries, hwrites, hrequired, -⟩ := Json.exists_writesRecord
    [("fields", .array (view.fields.map FieldPlan.toJson))] [] (by simp)
  refine ⟨entries, hwrites, ?_⟩
  constructor
  rw [hrequired _ (List.mem_singleton_self _)]
  exact .entry (Json.listOf_map fun f hf => FieldPlan.denotes_toJson (h f hf))

theorem readsBack_toJson {view : ViewPlan} (hfinite : ∀ f ∈ view.fields, f.Finite)
    (horder : ∀ f ∈ view.fields, f.OrderReadsBack) (depth : Nat) :
    view.toJson.ReadsBack (depth + 3) := by
  refine .object (List.forall_mem_singleton.mpr (.array (List.forall_mem_map.mpr ?_)))
  exact fun f hf => FieldPlan.readsBack_toJson (hfinite f hf) (horder f hf) depth

end ViewPlan

namespace Views

theorem Denotes.finite {v : Json} {views : Views} (h : Denotes v views) :
    views.EveryField FieldPlan.Finite := by
  obtain ⟨entries, -, hgiven⟩ := h
  intro kind view hview
  have hexists : ∃ w, ViewPlan.Denotes w view := by
    cases kind with
    | list => exact hgiven.list.exists_entry hview
    | detail => exact hgiven.detail.exists_entry hview
    | create => exact hgiven.create.exists_entry hview
    | edit => exact hgiven.edit.exists_entry hview
  obtain ⟨_, hdenotes⟩ := hexists
  exact hdenotes.finite

theorem toJson_eq (views : Views) : views.toJson = .object ([] ++
    Json.membersOf [("list", views.list.map ViewPlan.toJson),
      ("detail", views.detail.map ViewPlan.toJson), ("create", views.create.map ViewPlan.toJson),
      ("edit", views.edit.map ViewPlan.toJson)]) := by
  obtain ⟨list, detail, create, edit⟩ := views
  cases list <;> cases detail <;> cases create <;> cases edit <;> rfl

theorem denotes_toJson {views : Views} (h : views.EveryField FieldPlan.Finite) :
    Denotes views.toJson.sorted (views.map ViewPlan.withoutZeroSigns) := by
  obtain ⟨entries, hwrites, -, hoptional⟩ := Json.exists_writesRecord []
    [("list", views.list.map ViewPlan.toJson), ("detail", views.detail.map ViewPlan.toJson),
      ("create", views.create.map ViewPlan.toJson), ("edit", views.edit.map ViewPlan.toJson)]
    (by simp)
  simp only [List.forall_mem_cons, Option.map_map] at hoptional
  obtain ⟨hlist, hdetail, hcreate, hedit, -⟩ := hoptional
  rw [toJson_eq]
  refine ⟨entries, hwrites, ?list, ?detail, ?create, ?edit⟩
  case list =>
    rw [hlist]
    exact Json.optionally_map fun view hview => ViewPlan.denotes_toJson (h .list view hview)
  case detail =>
    rw [hdetail]
    exact Json.optionally_map fun view hview => ViewPlan.denotes_toJson (h .detail view hview)
  case create =>
    rw [hcreate]
    exact Json.optionally_map fun view hview => ViewPlan.denotes_toJson (h .create view hview)
  case edit =>
    rw [hedit]
    exact Json.optionally_map fun view hview => ViewPlan.denotes_toJson (h .edit view hview)

theorem readsBack_toJson {views : Views} (hfinite : views.EveryField FieldPlan.Finite)
    (horder : views.EveryField FieldPlan.OrderReadsBack) (depth : Nat) :
    views.toJson.ReadsBack (depth + 4) := by
  have hview (kind : ViewKind) : ∀ v ∈ (views.get? kind).map ViewPlan.toJson,
      v.ReadsBack (depth + 3) := by
    intro v hv
    obtain ⟨view, hview, rfl⟩ := Option.mem_map.mp hv
    exact ViewPlan.readsBack_toJson (hfinite kind view hview) (horder kind view hview) depth
  rw [toJson_eq]
  apply Json.ReadsBack.ofMembers
  · exact nofun
  · simp only [List.forall_mem_cons]
    exact ⟨hview .list, hview .detail, hview .create, hview .edit, nofun⟩

end Views

namespace ResourcePlan

/-- The plan for a resource, with zeros as orders taken as the positive one. -/
def withoutZeroSigns (r : ResourcePlan) : ResourcePlan :=
  { r with views := r.views.map ViewPlan.withoutZeroSigns }

theorem denotes_toJson {r : ResourcePlan} (h : r.views.EveryField FieldPlan.Finite) :
    Denotes r.toJson.sorted r.withoutZeroSigns := by
  obtain ⟨entries, hwrites, hrequired, -⟩ := Json.exists_writesRecord
    [("name", .string r.name), ("views", r.views.toJson)] [] (by simp)
  simp only [List.forall_mem_cons] at hrequired
  refine ⟨entries, hwrites, ?name, ?views⟩
  case name =>
    rw [hrequired.1]
    exact .entry rfl
  case views =>
    rw [hrequired.2.1]
    exact .entry (Views.denotes_toJson h)

theorem readsBack_toJson {r : ResourcePlan} (hfinite : r.views.EveryField FieldPlan.Finite)
    (horder : r.views.EveryField FieldPlan.OrderReadsBack) (depth : Nat) :
    r.toJson.ReadsBack (depth + 5) := by
  refine .object (List.forall_mem_cons.mpr ⟨.string r.name, List.forall_mem_singleton.mpr ?_⟩)
  exact Views.readsBack_toJson hfinite horder depth

end ResourcePlan

namespace Plan

/-- The plan, with zeros as orders taken as the positive one. -/
def withoutZeroSigns (p : Plan) : Plan := ⟨p.resources.map ResourcePlan.withoutZeroSigns⟩

/-- The orders of a plan that a value writes are numbers. -/
theorem Denotes.finite {v : Json} {p : Plan} (h : Denotes v p) : p.EveryField FieldPlan.Finite := by
  obtain ⟨entries, -, hgiven⟩ := h
  obtain ⟨_, hresources⟩ := hgiven.resources.exists_entry
  intro r hr
  obtain ⟨_, _, -, hgiven⟩ := hresources.exists_item hr
  obtain ⟨_, hviews⟩ := hgiven.views.exists_entry
  exact hviews.finite

/-- The JSON form of a plan writes the plan without the signs of zeros. -/
theorem denotes_toJson {p : Plan} (h : p.EveryField FieldPlan.Finite) :
    Denotes p.toJson.sorted p.withoutZeroSigns := by
  obtain ⟨entries, hwrites, hrequired, -⟩ := Json.exists_writesRecord
    [("resources", .array (p.resources.map ResourcePlan.toJson))] [] (by simp)
  refine ⟨entries, hwrites, ?_⟩
  constructor
  rw [hrequired _ (List.mem_singleton_self _)]
  exact .entry (Json.listOf_map fun r hr => ResourcePlan.denotes_toJson (h r hr))

/-- The text of a plan is read as its JSON form, if the orders in it read back. -/
theorem read?_toJson_compact {p : Plan} (hfinite : p.EveryField FieldPlan.Finite)
    (horder : p.EveryField FieldPlan.OrderReadsBack) :
    Json.read? p.toJson.compact = some p.toJson.sorted := by
  apply Json.read?_compact
  refine .object (List.forall_mem_singleton.mpr (.array (List.forall_mem_map.mpr ?_)))
  exact fun r hr => ResourcePlan.readsBack_toJson (hfinite r hr) (horder r hr) 120

end Plan

end ApiScreens
