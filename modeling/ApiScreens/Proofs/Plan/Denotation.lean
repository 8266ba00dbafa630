import ApiScreens.Plan.Basic
import ApiScreens.Proofs.Json.RecordForm
import Mathlib.Tactic.MkIffOfInductiveProp

/-!
# Values that write plans

Which plan a JSON value writes, record by record and apart from reading. A tree is read as the plan
that it writes, and is not read as a plan if it writes none.
-/

namespace ApiScreens

open Json (RecordPart FillsParts Given Optionally ListOf WritesRecord)

attribute [ext] FieldPlan ViewPlan Views ResourcePlan Plan

theorem ViewKind.mem_all (kind : ViewKind) : kind ∈ all := by
  cases kind <;> decide

namespace FieldPlan

/-- The entries stand for the parts of a field. -/
@[mk_iff]
structure GivenBy (entries : Keyed Json) (f : FieldPlan) : Prop where
  path : Given (fun v s => v = .string s) (entries.get? "path") f.path
  label : Optionally (fun v s => v = .string s) (entries.get? "label") f.label
  readOnly : Optionally (fun v b => v = .bool b) (entries.get? "readOnly") f.readOnly
  order : Optionally (fun v d => ∃ n, v = .number n ∧ n.toDouble = d) (entries.get? "order") f.order

/-- The value writes the field. -/
def Denotes (v : Json) (f : FieldPlan) : Prop :=
  ∃ entries, WritesRecord ["path"] ["label", "readOnly", "order"] v entries ∧ GivenBy entries f

/-- The part of a field under a key. -/
def part : String → RecordPart FieldPlan
  | "path" => ⟨String, Json.readText, (·.path), fun s f => { f with path := s }⟩
  | "label" => ⟨Option String, Json.readOptional Json.readText, (·.label),
      fun s f => { f with label := s }⟩
  | "readOnly" => ⟨Option Bool, Json.readOptional Json.readBool, (·.readOnly),
      fun b f => { f with readOnly := b }⟩
  | _ => ⟨Option Double, Json.readOptional Json.readDouble, (·.order),
      fun d f => { f with order := d }⟩

theorem fillsParts : FillsParts ["path", "label", "readOnly", "order"] part put where
  put_eq key hkey v f := by
    simp only [List.mem_cons, List.not_mem_nil, or_false] at hkey
    rcases hkey with rfl | rfl | rfl | rfl <;> rfl
  get_set key hkey x f := by
    simp only [List.mem_cons, List.not_mem_nil, or_false] at hkey
    rcases hkey with rfl | rfl | rfl | rfl <;> rfl
  get_set_of_ne key hkey other hother hne x f := by
    simp only [List.mem_cons, List.not_mem_nil, or_false] at hkey hother
    rcases hkey with rfl | rfl | rfl | rfl <;> rcases hother with rfl | rfl | rfl | rfl <;>
      first | contradiction | rfl
  ext f g h := by
    simp only [List.forall_mem_cons] at h
    obtain ⟨hpath, hlabel, hreadOnly, horder, -⟩ := h
    exact FieldPlan.ext hpath hlabel hreadOnly horder

theorem filled_iff_givenBy {v : Json} {entries : Keyed Json} {f : FieldPlan}
    (hwrites : WritesRecord ["path"] ["label", "readOnly", "order"] v entries) :
    (∀ key ∈ ["path", "label", "readOnly", "order"],
      (part key).Filled ⟨"", none, none, none⟩ (entries.get? key) f) ↔ GivenBy entries f := by
  rw [givenBy_iff, List.forall_mem_cons, List.forall_mem_cons, List.forall_mem_cons,
    List.forall_mem_singleton]
  refine and_congr ?path (and_congr ?label (and_congr ?readOnly ?order))
  case path =>
    apply Json.filled_iff_given (hwrites.isSome_get? (List.mem_singleton_self _))
    exact fun _ _ _ => Json.readText_eq_ok_iff
  case label =>
    apply Json.filled_iff_optionally rfl _ nofun
    exact fun _ _ _ => Json.readText_eq_ok_iff
  case readOnly =>
    apply Json.filled_iff_optionally rfl _ nofun
    exact fun _ _ _ => Json.readBool_eq_ok_iff
  case order =>
    apply Json.filled_iff_optionally rfl
    · exact fun _ _ _ => Json.readDouble_eq_ok_iff
    · rintro _ ⟨_, h, _⟩
      contradiction

/-- A tree is read as the field that it writes. -/
theorem read_eq_ok_iff {v : Json} (hv : v.IsTree) {f : FieldPlan} :
    read v = .ok f ↔ Denotes v f := by
  rw [read, Json.read_eq_ok_iff_filled ["path"] ["label", "readOnly", "order"] fillsParts rfl rfl
    (by decide) hv]
  exact exists_congr fun entries => and_congr_right filled_iff_givenBy

end FieldPlan

namespace ViewPlan

/-- The entries stand for the fields of a view. -/
@[mk_iff]
structure GivenBy (entries : Keyed Json) (view : ViewPlan) : Prop where
  fields : Given (ListOf FieldPlan.Denotes) (entries.get? "fields") view.fields

/-- The value writes the view. -/
def Denotes (v : Json) (view : ViewPlan) : Prop :=
  ∃ entries, WritesRecord ["fields"] [] v entries ∧ GivenBy entries view

/-- The only part of a view. -/
def part (_ : String) : RecordPart ViewPlan :=
  ⟨List FieldPlan, Json.readList FieldPlan.read, (·.fields), fun fields _ => ⟨fields⟩⟩

theorem fillsParts : FillsParts ["fields"] part put where
  put_eq key _ v view := rfl
  get_set key _ fields view := rfl
  get_set_of_ne key hkey other hother hne := by
    rw [List.mem_singleton.mp hkey, List.mem_singleton.mp hother] at hne
    contradiction
  ext view view' h := ViewPlan.ext (h "fields" (List.mem_singleton_self _))

theorem filled_iff_givenBy {v : Json} (hv : v.IsTree) {entries : Keyed Json} {view : ViewPlan}
    (hwrites : WritesRecord ["fields"] [] v entries) :
    (∀ key ∈ ["fields"], (part key).Filled ⟨[]⟩ (entries.get? key) view) ↔
      GivenBy entries view := by
  rw [givenBy_iff, List.forall_mem_singleton]
  apply Json.filled_iff_given (hwrites.isSome_get? (List.mem_singleton_self _))
  intro w hw fields
  apply Json.readList_eq_ok_iff (hwrites.isTree_get? hv w hw)
  exact fun _ hitem _ => FieldPlan.read_eq_ok_iff hitem

/-- A tree is read as the view that it writes. -/
theorem read_eq_ok_iff {v : Json} (hv : v.IsTree) {view : ViewPlan} :
    read v = .ok view ↔ Denotes v view := by
  rw [read, Json.read_eq_ok_iff_filled ["fields"] [] fillsParts rfl rfl (by decide) hv]
  exact exists_congr fun entries => and_congr_right (filled_iff_givenBy hv)

theorem not_denotes_null {view : ViewPlan} : ¬ Denotes .null view := by
  rintro ⟨_, hwrites, -⟩
  cases hwrites

end ViewPlan

namespace Views

/-- The entries stand for the views. -/
@[mk_iff]
structure GivenBy (entries : Keyed Json) (views : Views) : Prop where
  list : Optionally ViewPlan.Denotes (entries.get? "list") views.list
  detail : Optionally ViewPlan.Denotes (entries.get? "detail") views.detail
  create : Optionally ViewPlan.Denotes (entries.get? "create") views.create
  edit : Optionally ViewPlan.Denotes (entries.get? "edit") views.edit

/-- The value writes the views. -/
def Denotes (v : Json) (views : Views) : Prop :=
  ∃ entries, WritesRecord [] ["list", "detail", "create", "edit"] v entries ∧
    GivenBy entries views

/-- The view under a key. -/
def part : String → RecordPart Views
  | "list" => ⟨Option ViewPlan, Json.readOptional ViewPlan.read, (·.list),
      fun view views => { views with list := view }⟩
  | "detail" => ⟨Option ViewPlan, Json.readOptional ViewPlan.read, (·.detail),
      fun view views => { views with detail := view }⟩
  | "create" => ⟨Option ViewPlan, Json.readOptional ViewPlan.read, (·.create),
      fun view views => { views with create := view }⟩
  | _ => ⟨Option ViewPlan, Json.readOptional ViewPlan.read, (·.edit),
      fun view views => { views with edit := view }⟩

theorem fillsParts : FillsParts ["list", "detail", "create", "edit"] part put where
  put_eq key hkey v views := by
    simp only [List.mem_cons, List.not_mem_nil, or_false] at hkey
    rcases hkey with rfl | rfl | rfl | rfl <;> rfl
  get_set key hkey view views := by
    simp only [List.mem_cons, List.not_mem_nil, or_false] at hkey
    rcases hkey with rfl | rfl | rfl | rfl <;> rfl
  get_set_of_ne key hkey other hother hne view views := by
    simp only [List.mem_cons, List.not_mem_nil, or_false] at hkey hother
    rcases hkey with rfl | rfl | rfl | rfl <;> rcases hother with rfl | rfl | rfl | rfl <;>
      first | contradiction | rfl
  ext views views' h := by
    simp only [List.forall_mem_cons] at h
    obtain ⟨hlist, hdetail, hcreate, hedit, -⟩ := h
    exact Views.ext hlist hdetail hcreate hedit

theorem filled_iff_givenBy {v : Json} (hv : v.IsTree) {entries : Keyed Json} {views : Views}
    (hwrites : WritesRecord [] ["list", "detail", "create", "edit"] v entries) :
    (∀ key ∈ ["list", "detail", "create", "edit"],
      (part key).Filled ⟨none, none, none, none⟩ (entries.get? key) views) ↔
        GivenBy entries views := by
  have hread : ∀ key, ∀ w ∈ entries.get? key, ∀ view,
      ViewPlan.read w = .ok view ↔ ViewPlan.Denotes w view :=
    fun _ w hw _ => ViewPlan.read_eq_ok_iff (hwrites.isTree_get? hv w hw)
  have hnull : ∀ view, ¬ ViewPlan.Denotes .null view := fun _ => ViewPlan.not_denotes_null
  rw [givenBy_iff, List.forall_mem_cons, List.forall_mem_cons, List.forall_mem_cons,
    List.forall_mem_singleton]
  refine and_congr ?list (and_congr ?detail (and_congr ?create ?edit))
  case list => exact Json.filled_iff_optionally rfl (hread _) hnull
  case detail => exact Json.filled_iff_optionally rfl (hread _) hnull
  case create => exact Json.filled_iff_optionally rfl (hread _) hnull
  case edit => exact Json.filled_iff_optionally rfl (hread _) hnull

/-- A tree is read as the views that it writes. -/
theorem read_eq_ok_iff {v : Json} (hv : v.IsTree) {views : Views} :
    read v = .ok views ↔ Denotes v views := by
  rw [read, Json.read_eq_ok_iff_filled [] ["list", "detail", "create", "edit"] fillsParts rfl rfl
    (by decide) hv]
  exact exists_congr fun entries => and_congr_right (filled_iff_givenBy hv)

theorem mem_toList {views : Views} {kind : ViewKind} {view : ViewPlan} :
    (kind, view) ∈ views.toList ↔ views.get? kind = some view := by
  simp [toList, ViewKind.mem_all]

/-- What holds of every view that is there holds of the views in their order. -/
theorem forall_mem_toList_iff {views : Views} {P : ViewPlan → Prop} :
    (∀ t ∈ views.toList, P t.2) ↔ ∀ kind, ∀ view ∈ views.get? kind, P view := by
  simp only [Prod.forall, mem_toList, Option.mem_def]

/-- Every field of the views has the property. -/
def EveryField (P : FieldPlan → Prop) (views : Views) : Prop :=
  ∀ kind, ∀ view ∈ views.get? kind, ∀ f ∈ view.fields, P f

theorem everyField_iff {P : FieldPlan → Prop} {views : Views} :
    views.EveryField P ↔ ∀ t ∈ views.toList, ∀ f ∈ t.2.fields, P f :=
  (@forall_mem_toList_iff views fun view => ∀ f ∈ view.fields, P f).symm

theorem get?_map (views : Views) (change : ViewPlan → ViewPlan) (kind : ViewKind) :
    (views.map change).get? kind = (views.get? kind).map change := by
  cases kind <;> rfl

theorem EveryField.map {P Q : FieldPlan → Prop} {views : Views} (h : views.EveryField P)
    {change : ViewPlan → ViewPlan}
    (hchange : ∀ view, (∀ f ∈ view.fields, P f) → ∀ f ∈ (change view).fields, Q f) :
    (views.map change).EveryField Q := by
  intro kind view hview
  rw [get?_map] at hview
  obtain ⟨before, hbefore, rfl⟩ := Option.map_eq_some_iff.mp hview
  exact hchange before (h kind before hbefore)

end Views

namespace ResourcePlan

/-- The entries stand for the parts of the plan for a resource. -/
@[mk_iff]
structure GivenBy (entries : Keyed Json) (r : ResourcePlan) : Prop where
  name : Given (fun v s => v = .string s) (entries.get? "name") r.name
  views : Given Views.Denotes (entries.get? "views") r.views

/-- The value writes the plan for the resource. -/
def Denotes (v : Json) (r : ResourcePlan) : Prop :=
  ∃ entries, WritesRecord ["name", "views"] [] v entries ∧ GivenBy entries r

/-- The part of the plan for a resource under a key. -/
def part : String → RecordPart ResourcePlan
  | "name" => ⟨String, Json.readText, (·.name), fun s r => { r with name := s }⟩
  | _ => ⟨Views, Views.read, (·.views), fun views r => { r with views := views }⟩

theorem fillsParts : FillsParts ["name", "views"] part put where
  put_eq key hkey v r := by
    simp only [List.mem_cons, List.not_mem_nil, or_false] at hkey
    rcases hkey with rfl | rfl <;> rfl
  get_set key hkey x r := by
    simp only [List.mem_cons, List.not_mem_nil, or_false] at hkey
    rcases hkey with rfl | rfl <;> rfl
  get_set_of_ne key hkey other hother hne x r := by
    simp only [List.mem_cons, List.not_mem_nil, or_false] at hkey hother
    rcases hkey with rfl | rfl <;> rcases hother with rfl | rfl <;> first | contradiction | rfl
  ext r r' h := by
    simp only [List.forall_mem_cons] at h
    exact ResourcePlan.ext h.1 h.2.1

theorem filled_iff_givenBy {v : Json} (hv : v.IsTree) {entries : Keyed Json} {r : ResourcePlan}
    (hwrites : WritesRecord ["name", "views"] [] v entries) :
    (∀ key ∈ ["name", "views"],
      (part key).Filled ⟨"", ⟨none, none, none, none⟩⟩ (entries.get? key) r) ↔
        GivenBy entries r := by
  rw [givenBy_iff, List.forall_mem_cons, List.forall_mem_singleton]
  refine and_congr ?name ?views
  case name =>
    apply Json.filled_iff_given (hwrites.isSome_get? (List.mem_cons_self ..))
    exact fun _ _ _ => Json.readText_eq_ok_iff
  case views =>
    apply Json.filled_iff_given
      (hwrites.isSome_get? (List.mem_cons_of_mem _ (List.mem_singleton_self _)))
    exact fun w hw _ => Views.read_eq_ok_iff (hwrites.isTree_get? hv w hw)

/-- A tree is read as the plan for a resource that it writes. -/
theorem read_eq_ok_iff {v : Json} (hv : v.IsTree) {r : ResourcePlan} :
    read v = .ok r ↔ Denotes v r := by
  rw [read, Json.read_eq_ok_iff_filled ["name", "views"] [] fillsParts rfl rfl (by decide) hv]
  exact exists_congr fun entries => and_congr_right (filled_iff_givenBy hv)

end ResourcePlan

namespace Plan

/-- The entries stand for the resources of a plan. -/
@[mk_iff]
structure GivenBy (entries : Keyed Json) (p : Plan) : Prop where
  resources : Given (ListOf ResourcePlan.Denotes) (entries.get? "resources") p.resources

/-- The value writes the plan. -/
def Denotes (v : Json) (p : Plan) : Prop :=
  ∃ entries, WritesRecord ["resources"] [] v entries ∧ GivenBy entries p

/-- The only part of a plan. -/
def part (_ : String) : RecordPart Plan :=
  ⟨List ResourcePlan, Json.readList ResourcePlan.read, (·.resources),
    fun resources _ => ⟨resources⟩⟩

theorem fillsParts : FillsParts ["resources"] part put where
  put_eq key _ v p := rfl
  get_set key _ resources p := rfl
  get_set_of_ne key hkey other hother hne := by
    rw [List.mem_singleton.mp hkey, List.mem_singleton.mp hother] at hne
    contradiction
  ext p p' h := Plan.ext (h "resources" (List.mem_singleton_self _))

theorem filled_iff_givenBy {v : Json} (hv : v.IsTree) {entries : Keyed Json} {p : Plan}
    (hwrites : WritesRecord ["resources"] [] v entries) :
    (∀ key ∈ ["resources"], (part key).Filled ⟨[]⟩ (entries.get? key) p) ↔
      GivenBy entries p := by
  rw [givenBy_iff, List.forall_mem_singleton]
  apply Json.filled_iff_given (hwrites.isSome_get? (List.mem_singleton_self _))
  intro w hw resources
  apply Json.readList_eq_ok_iff (hwrites.isTree_get? hv w hw)
  exact fun _ hitem _ => ResourcePlan.read_eq_ok_iff hitem

/-- A tree is read as the plan that it writes. -/
theorem read_eq_ok_iff {v : Json} (hv : v.IsTree) {p : Plan} : read v = .ok p ↔ Denotes v p := by
  rw [read, Json.read_eq_ok_iff_filled ["resources"] [] fillsParts rfl rfl (by decide) hv]
  exact exists_congr fun entries => and_congr_right (filled_iff_givenBy hv)

/-- Every field of the plan has the property. -/
def EveryField (P : FieldPlan → Prop) (p : Plan) : Prop :=
  ∀ r ∈ p.resources, r.views.EveryField P

/-- A tree writes one plan at most. -/
theorem Denotes.unique {v : Json} (hv : v.IsTree) {p p' : Plan} (h : Denotes v p)
    (h' : Denotes v p') : p = p' := by
  have hread := (read_eq_ok_iff hv).mpr h
  rw [(read_eq_ok_iff hv).mpr h'] at hread
  exact (Except.ok.inj hread).symm

end Plan

end ApiScreens
