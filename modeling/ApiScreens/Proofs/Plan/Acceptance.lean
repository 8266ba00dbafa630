import ApiScreens.Plan.Validate
import ApiScreens.Proofs.Outcome
import ApiScreens.Proofs.Plan.Denotation

/-!
# Plans that are accepted

The texts of a plan have places, in the order in which they are checked. A tree is accepted exactly
if it writes a plan whose texts are not blank, and otherwise the first blank text is answered.
-/

namespace ApiScreens

/-- A place of a text in a plan: the name of a resource, or the path of a field. -/
inductive TextPlace where
  | name (resource : Nat)
  | path (resource : Nat) (view : ViewKind) (field : Nat)
deriving DecidableEq

/-- The place of a view among those of a resource. -/
def ViewKind.rank : ViewKind → Nat
  | list => 0
  | detail => 1
  | create => 2
  | edit => 3

theorem ViewKind.all_pairwise_rank : all.Pairwise fun k l => k.rank < l.rank := by
  decide

namespace TextPlace

/-- Places compare by resource, view and field, and a name comes before the views. -/
def rank : TextPlace → List Nat
  | name r => [r]
  | path r view field => [r, view.rank, field]

/-- How the place is written. -/
def location : TextPlace → String
  | name r => s!"resources[{r}].name"
  | path r view field => s!"resources[{r}].views.{view.name}.fields[{field}].path"

/-- The issue of a blank text at the place. -/
def issue : TextPlace → PlanIssue
  | name r => .blankName r
  | path r view field => .blankPath r view field

theorem location_issue (place : TextPlace) : place.issue.location = place.location := by
  cases place <;> rfl

end TextPlace

theorem zipIdx_ascending {α : Type} (l : List α) : l.zipIdx.Pairwise fun a b => a.2 < b.2 := by
  apply List.pairwise_map.mp
  rw [List.zipIdx_map_snd]
  exact List.pairwise_lt_range'

theorem forall_mem_zipIdx {α : Type} (l : List α) (P : α → Prop) :
    (∀ t ∈ l.zipIdx, P t.1) ↔ ∀ a ∈ l, P a := by
  rw [← List.forall_mem_map, List.zipIdx_map_fst]

theorem filterMap_ite {α β : Type} (l : List α) (p : α → Bool) (f : α → β) :
    l.filterMap (fun a => if p a then some (f a) else none) = (l.filter p).map f := by
  induction l with
  | nil => rfl
  | cons a l ih => cases h : p a <;> simp [h, ih]

namespace Views

theorem toList_ascending (views : Views) :
    views.toList.Pairwise fun a b => a.1.rank < b.1.rank := by
  rw [toList, List.pairwise_filterMap]
  apply ViewKind.all_pairwise_rank.imp
  simp only [Option.map_eq_some_iff]
  rintro k l hlt _ ⟨_, -, rfl⟩ _ ⟨_, -, rfl⟩
  exact hlt

end Views

namespace ViewPlan

/-- The paths of a view with their places. -/
def texts (view : ViewPlan) (resource : Nat) (kind : ViewKind) : List (TextPlace × String) :=
  view.fields.zipIdx.map fun (f, i) => (.path resource kind i, f.path)

theorem blankPaths_eq (view : ViewPlan) (resource : Nat) (kind : ViewKind) :
    Plan.blankPaths resource kind view =
      ((view.texts resource kind).filter (Text.isBlankText ·.2)).map (·.1.issue) := by
  rw [texts, List.filter_map, List.map_map, ← filterMap_ite]
  rfl

theorem texts_ascending (view : ViewPlan) (resource : Nat) (kind : ViewKind) :
    (view.texts resource kind).Pairwise fun a b => a.1.rank < b.1.rank := by
  rw [texts, List.pairwise_map]
  apply (zipIdx_ascending view.fields).imp
  intro a b hlt
  simp [TextPlace.rank, List.cons_lt_cons_iff, hlt]

theorem rank_of_mem_texts {view : ViewPlan} {resource : Nat} {kind : ViewKind}
    {t : TextPlace × String} (ht : t ∈ view.texts resource kind) :
    ∃ i, t.1.rank = [resource, kind.rank, i] := by
  obtain ⟨f, -, rfl⟩ := List.mem_map.mp ht
  exact ⟨f.2, rfl⟩

theorem forall_mem_texts_iff {view : ViewPlan} {resource : Nat} {kind : ViewKind}
    {P : String → Prop} :
    (∀ t ∈ view.texts resource kind, P t.2) ↔ ∀ f ∈ view.fields, P f.path := by
  rw [texts, List.forall_mem_map]
  exact forall_mem_zipIdx view.fields fun f => P f.path

end ViewPlan

namespace ResourcePlan

/-- The texts of the plan for a resource with their places. -/
def texts (r : ResourcePlan) (index : Nat) : List (TextPlace × String) :=
  (.name index, r.name) :: r.views.toList.flatMap fun (kind, view) => view.texts index kind

theorem blankTexts_eq (r : ResourcePlan) (index : Nat) :
    Plan.blankTexts r index =
      ((r.texts index).filter (Text.isBlankText ·.2)).map (·.1.issue) := by
  simp only [Plan.blankTexts, texts, ViewPlan.blankPaths_eq, List.filter_cons, List.filter_flatMap]
  split <;> simp [List.map_flatMap, TextPlace.issue]

theorem texts_ascending (r : ResourcePlan) (index : Nat) :
    (r.texts index).Pairwise fun a b => a.1.rank < b.1.rank := by
  rw [texts, List.pairwise_cons, List.pairwise_flatMap]
  refine ⟨?name, ?view, ?views⟩
  case name =>
    intro t ht
    obtain ⟨_, -, ht⟩ := List.mem_flatMap.mp ht
    obtain ⟨i, hi⟩ := ViewPlan.rank_of_mem_texts ht
    change [index] < t.1.rank
    simp [hi]
  case view => exact fun _ _ => ViewPlan.texts_ascending ..
  case views =>
    apply (Views.toList_ascending r.views).imp
    intro a b hlt t ht u hu
    obtain ⟨i, hi⟩ := ViewPlan.rank_of_mem_texts ht
    obtain ⟨j, hj⟩ := ViewPlan.rank_of_mem_texts hu
    simp [hi, hj, List.cons_lt_cons_iff, hlt]

theorem rank_of_mem_texts {r : ResourcePlan} {index : Nat} {t : TextPlace × String}
    (ht : t ∈ r.texts index) : ∃ behind, t.1.rank = index :: behind := by
  rcases List.mem_cons.mp ht with rfl | ht
  · exact ⟨[], rfl⟩
  · obtain ⟨_, -, ht⟩ := List.mem_flatMap.mp ht
    obtain ⟨i, hi⟩ := ViewPlan.rank_of_mem_texts ht
    exact ⟨_, hi⟩

theorem forall_mem_texts_iff {r : ResourcePlan} {index : Nat} {P : String → Prop} :
    (∀ t ∈ r.texts index, P t.2) ↔ P r.name ∧ r.views.EveryField fun f => P f.path := by
  rw [texts, List.forall_mem_cons, List.forall_mem_flatMap, Views.everyField_iff]
  exact and_congr_right fun _ => forall₂_congr fun _ _ => ViewPlan.forall_mem_texts_iff

end ResourcePlan

namespace Plan

/-- The text at a place of a plan. -/
def textAt? (p : Plan) : TextPlace → Option String
  | .name r => p.resources[r]?.map (·.name)
  | .path r kind i => do
    let resource ← p.resources[r]?
    let view ← resource.views.get? kind
    let field ← view.fields[i]?
    return field.path

/-- The texts of a plan in the order in which they are checked. -/
def texts (p : Plan) : List (TextPlace × String) :=
  p.resources.zipIdx.flatMap fun (r, i) => r.texts i

theorem mem_texts {p : Plan} {place : TextPlace} {s : String} :
    (place, s) ∈ p.texts ↔ p.textAt? place = some s := by
  cases place with
  | name r =>
      simp [texts, ResourcePlan.texts, ViewPlan.texts, textAt?, List.mem_zipIdx_iff_getElem?,
        eq_comm (a := s)]
  | path r kind i =>
      simp [texts, ResourcePlan.texts, ViewPlan.texts, textAt?, List.mem_zipIdx_iff_getElem?,
        Option.bind_eq_some_iff, Views.mem_toList]

theorem texts_ascending (p : Plan) : p.texts.Pairwise fun a b => a.1.rank < b.1.rank := by
  rw [texts, List.pairwise_flatMap]
  constructor
  · exact fun _ _ => ResourcePlan.texts_ascending ..
  · apply (zipIdx_ascending p.resources).imp
    intro a b hlt t ht u hu
    obtain ⟨_, ht⟩ := ResourcePlan.rank_of_mem_texts ht
    obtain ⟨_, hu⟩ := ResourcePlan.rank_of_mem_texts hu
    simp [ht, hu, List.cons_lt_cons_iff, hlt]

theorem forall_mem_texts_iff {p : Plan} {P : String → Prop} : (∀ t ∈ p.texts, P t.2) ↔
    ∀ r ∈ p.resources, P r.name ∧ r.views.EveryField fun f => P f.path := by
  rw [texts, List.forall_mem_flatMap]
  simp only [ResourcePlan.forall_mem_texts_iff]
  exact forall_mem_zipIdx p.resources fun r => P r.name ∧ r.views.EveryField fun f => P f.path

theorem issues_eq (p : Plan) :
    p.issues = (p.texts.filter (Text.isBlankText ·.2)).map (·.1.issue) := by
  simp only [issues, texts, ResourcePlan.blankTexts_eq, List.filter_flatMap, List.map_flatMap]

/-- The text at the place is blank. -/
def BlankAt (p : Plan) (place : TextPlace) : Prop :=
  ∃ s, p.textAt? place = some s ∧ ∀ c ∈ s.toList, Text.isBlank c = true

/-- The place is the first one of a blank text. -/
structure FirstBlankAt (p : Plan) (place : TextPlace) : Prop where
  blank : p.BlankAt place
  first : ∀ other, p.BlankAt other → ¬ other.rank < place.rank

theorem blankAt_iff {p : Plan} {place : TextPlace} :
    p.BlankAt place ↔ ∃ s, (place, s) ∈ p.texts.filter (Text.isBlankText ·.2) := by
  simp [BlankAt, mem_texts, Text.isBlankText]

theorem issues_eq_nil_iff {p : Plan} : p.issues = [] ↔ ∀ place, ¬ p.BlankAt place := by
  rw [issues_eq, List.map_eq_nil_iff, List.eq_nil_iff_forall_not_mem]
  constructor
  · intro h place hblank
    obtain ⟨s, hs⟩ := blankAt_iff.mp hblank
    exact h _ hs
  · exact fun h t ht => h t.1 (blankAt_iff.mpr ⟨t.2, ht⟩)

/-- No text is blank exactly if no name of a resource and no path of a field is. -/
theorem forall_not_blankAt_iff {p : Plan} : (∀ place, ¬ p.BlankAt place) ↔ ∀ r ∈ p.resources,
    Text.isBlankText r.name = false ∧
      r.views.EveryField fun f => Text.isBlankText f.path = false := by
  rw [← forall_mem_texts_iff (P := fun s => Text.isBlankText s = false)]
  simp only [blankAt_iff, List.mem_filter, not_exists, not_and, Bool.not_eq_true, Prod.forall]

/-- The first issue of a plan is the one at the first place of a blank text. -/
theorem exists_firstBlankAt {p : Plan} {issue : PlanIssue} (h : p.issues.head? = some issue) :
    ∃ place, p.FirstBlankAt place ∧ issue = place.issue := by
  have hascending := p.texts_ascending.filter (Text.isBlankText ·.2)
  rw [issues_eq] at h
  cases hblank : p.texts.filter (Text.isBlankText ·.2) with
  | nil => simp [hblank] at h
  | cons t rest =>
      rw [hblank] at h hascending
      refine ⟨t.1, ⟨blankAt_iff.mpr ⟨t.2, hblank ▸ List.mem_cons_self⟩, ?_⟩, ?_⟩
      · intro other hother hlt
        obtain ⟨s, hs⟩ := blankAt_iff.mp hother
        rw [hblank] at hs
        rcases List.mem_cons.mp hs with rfl | hrest
        · exact List.lt_irrefl _ hlt
        · exact List.lt_asymm hlt (List.rel_of_pairwise_cons hascending hrest)
      · exact (Option.some.inj h).symm

theorem ofJson_eq_of_denotes {payload : Json} (hpayload : payload.IsTree) {p : Plan}
    (h : Denotes payload p) : ofJson payload = p.checked := by
  rw [ofJson, (read_eq_ok_iff hpayload).mpr h]
  rfl

theorem checked_eq_ok_iff {p p' : Plan} :
    p.checked = .ok p' ↔ p = p' ∧ ∀ place, ¬ p.BlankAt place := by
  rw [← issues_eq_nil_iff, ← List.head?_eq_none_iff, checked]
  cases p.issues.head? <;> simp

theorem not_blankAt_iff {p : Plan} : (∀ place, ¬ p.BlankAt place) ↔
    ∀ place s, p.textAt? place = some s → ∃ c ∈ s.toList, Text.isBlank c = false := by
  simp [BlankAt]

theorem checked_of_blankAt {p : Plan} {place : TextPlace} (h : p.BlankAt place) :
    ∃ first, p.FirstBlankAt first ∧ p.checked = .error first.issue := by
  have hissues : p.issues ≠ [] := fun hnil => issues_eq_nil_iff.mp hnil place h
  obtain ⟨issue, hissue⟩ := Option.isSome_iff_exists.mp (List.isSome_head?.mpr hissues)
  obtain ⟨first, hfirst, rfl⟩ := exists_firstBlankAt hissue
  exact ⟨first, hfirst, by rw [checked, hissue]⟩

/-- A tree is accepted as a plan exactly if it writes that plan and every text of the plan has a
character that is not blank. If it writes a plan with blank texts, the issue is located at the first
of them. -/
theorem ofJson_outcome {payload : Json} (h : payload.IsTree) :
    (∀ p, ofJson payload = .ok p ↔ Denotes payload p ∧
      ∀ place s, p.textAt? place = some s → ∃ c ∈ s.toList, Text.isBlank c = false) ∧
    ∀ p, Denotes payload p → (∃ place, p.BlankAt place) →
      ∃ place issue, p.FirstBlankAt place ∧ ofJson payload = .error issue ∧
        issue.location = place.location := by
  constructor
  · intro p
    rw [← read_eq_ok_iff h, ← not_blankAt_iff, ofJson, bind_eq_ok]
    simp only [mapError_eq_ok, checked_eq_ok_iff]
    constructor
    · rintro ⟨_, hread, rfl, hblank⟩
      exact ⟨hread, hblank⟩
    · rintro ⟨hread, hblank⟩
      exact ⟨p, hread, rfl, hblank⟩
  · rintro p hp ⟨_, hblank⟩
    obtain ⟨first, hfirst, herror⟩ := checked_of_blankAt hblank
    refine ⟨first, first.issue, hfirst, ?_, first.location_issue⟩
    rw [ofJson_eq_of_denotes h hp, herror]

theorem ofJson_outcome_sample :
    let payload : Json := .object [("resources", .array [.array [.string "Pets", .object [
      ("list", .object [("fields", .array [.array [.string "id", .null],
        .object [("path", .string " ")]])])]]])]
    payload.IsTree ∧ ∃ issue, ofJson payload = .error issue ∧
      issue.location = "resources[0].views.list.fields[1].path" := by
  intro payload
  let plan : Plan := ⟨[⟨"Pets", ⟨some ⟨[⟨"id", none, none, none⟩, ⟨" ", none, none, none⟩]⟩,
    none, none, none⟩⟩]⟩
  have hpayload : payload.IsTree := by decide
  have hplan : Denotes payload plan := (read_eq_ok_iff hpayload).mp rfl
  obtain ⟨place, issue, hfirst, herror, hlocation⟩ :=
    (ofJson_outcome hpayload).2 plan hplan ⟨.path 0 .list 1, " ", rfl, List.all_eq_true.mp rfl⟩
  have hblank : plan.texts.filter (Text.isBlankText ·.2) = [(.path 0 .list 1, " ")] := by decide
  obtain ⟨s, hs⟩ := blankAt_iff.mp hfirst.blank
  rw [hblank, List.mem_singleton, Prod.mk.injEq] at hs
  refine ⟨hpayload, issue, herror, ?_⟩
  rw [hlocation, hs.1]
  rfl

end Plan

end ApiScreens
