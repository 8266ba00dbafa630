import ApiScreens.Plan.Validate
import ApiScreens.Proofs.Plan.NormalForm
import ApiScreens.Proofs.Pointwise

/-!
# Rearranged plans

A plan may be rearranged without another meaning: its resources may come in another order, and so
may the fields of a view that have different paths; a field may be repeated. Normal forms forget all
of this but one thing, the order in which the resources of one name come.
-/

namespace ApiScreens

open Std

namespace ViewPlan

/-- The different fields with a path, in the order in which they come first. -/
def fieldsAt (view : ViewPlan) (path : String) : List FieldPlan :=
  distinct (view.fields.filter (·.path == path))

/-- The views have the same fields, some of them perhaps repeated. Only fields with different paths
may have changed places. -/
def SameFields (view view' : ViewPlan) : Prop :=
  ∀ path, view.fieldsAt path = view'.fieldsAt path

/-- Fields of the view with the same path are the same. -/
def OneFieldPerPath (view : ViewPlan) : Prop :=
  ∀ f ∈ view.fields, ∀ g ∈ view.fields, f.path = g.path → f = g

instance (view : ViewPlan) : Decidable view.OneFieldPerPath :=
  inferInstanceAs (Decidable (∀ f ∈ view.fields, ∀ g ∈ view.fields, f.path = g.path → f = g))

theorem find?_eq_head?_fieldsAt (view : ViewPlan) (path : String) :
    view.fields.find? (·.path == path) = (view.fieldsAt path).head? := by
  rw [fieldsAt, head?_distinct, List.head?_filter]

/-- Views in which fields with one path are the same may be rearranged at will. -/
theorem sameFields_of_mem_iff {view view' : ViewPlan} (hone : view.OneFieldPerPath)
    (hmem : ∀ f, f ∈ view.fields ↔ f ∈ view'.fields) : view.SameFields view' := by
  intro path
  have hperm : (view.fieldsAt path).Perm (view'.fieldsAt path) := by
    apply (List.perm_ext_iff_of_nodup (distinct_nodup _) (distinct_nodup _)).mpr
    intro f
    rw [mem_distinct_iff, mem_distinct_iff, List.mem_filter, List.mem_filter, hmem]
  have hmemAt {f : FieldPlan} (hf : f ∈ view.fieldsAt path) : f ∈ view.fields ∧ f.path = path := by
    obtain ⟨hf, hpath⟩ := List.mem_filter.mp (distinct_subset _ hf)
    exact ⟨hf, beq_iff_eq.mp hpath⟩
  have hpairwise (l : List FieldPlan) : l.Pairwise fun _ _ => True :=
    List.pairwise_of_forall fun _ _ => trivial
  apply List.Perm.eq_of_pairwise _ (hpairwise _) (hpairwise _) hperm
  intro f g hf hg _ _
  obtain ⟨hf, hfpath⟩ := hmemAt hf
  obtain ⟨hg, hgpath⟩ := hmemAt (hperm.mem_iff.mpr hg)
  exact hone f hf g hg (hfpath.trans hgpath.symm)

/-- The fields that a view keeps are the first ones of their paths. -/
theorem SameFields.normalize_eq {view view' : ViewPlan} (h : view.SameFields view') :
    view.normalize = view'.normalize := by
  have hkept (f : FieldPlan) :
      f ∈ distinctBy (·.path) view.fields ↔ f ∈ distinctBy (·.path) view'.fields := by
    rw [mem_distinctBy_iff, mem_distinctBy_iff, find?_eq_head?_fieldsAt, find?_eq_head?_fieldsAt, h]
  have hnodup (view : ViewPlan) : ((distinctBy (·.path) view.fields).map (·.path)).Nodup :=
    distinctBy_keys_nodup view.fields
  have hperm : (distinctBy (·.path) view.fields).Perm (distinctBy (·.path) view'.fields) :=
    (List.perm_ext_iff_of_nodup (hnodup view).of_map (hnodup view').of_map).mpr hkept
  rw [normalize, normalize, normalizeFields, normalizeFields, FieldPlan.sort, FieldPlan.sort]
  rw [mergeSort_eq_of_perm _ hperm]
  intro f hf g hg htie
  exact List.inj_on_of_nodup_map (hnodup view) hf hg (FieldPlan.path_eq_of_fieldOrder_eq htie)

end ViewPlan

namespace ResourcePlan

/-- The plans are for one resource and have the same views with the same fields. -/
structure SameFields (r r' : ResourcePlan) : Prop where
  name : r.name = r'.name
  views : ∀ kind, Option.Rel ViewPlan.SameFields (r.views.get? kind) (r'.views.get? kind)

theorem SameFields.normalize_eq {r r' : ResourcePlan} (h : r.SameFields r') :
    r.normalize = r'.normalize := by
  have hviews (kind : ViewKind) : (r.views.map ViewPlan.normalize).get? kind =
      (r'.views.map ViewPlan.normalize).get? kind := by
    rw [Views.get?_map, Views.get?_map]
    have hrel := h.views kind
    generalize r.views.get? kind = view at hrel
    generalize r'.views.get? kind = view' at hrel
    cases hrel with
    | none => rfl
    | some hsame => exact congrArg some hsame.normalize_eq
  apply ResourcePlan.ext
  · exact h.name
  · exact Views.ext (hviews .list) (hviews .detail) (hviews .create) (hviews .edit)

end ResourcePlan

namespace Plan

/-- In every view of the plan, fields with the same path are the same. -/
def OneFieldPerPath (p : Plan) : Prop :=
  ∀ r ∈ p.resources, ∀ kind, ∀ view ∈ r.views.get? kind, view.OneFieldPerPath

/-- The plans are for the same resources, each with the same fields in the same views. -/
def Rearranged (p p' : Plan) : Prop :=
  ∃ resources, p.resources.Perm resources ∧
    List.Forall₂ ResourcePlan.SameFields resources p'.resources

/-- The normal forms of the plans for resources of a name, in their order. -/
def normalFormsOf (p : Plan) (name : String) : List ResourcePlan :=
  (p.resources.filter (·.name = name)).map ResourcePlan.normalize

theorem filter_normalize_resources (p : Plan) (name : String) :
    p.normalize.resources.filter (·.name = name) = p.normalFormsOf name := by
  have htie (r r' : ResourcePlan) (hr : decide (r.name = name) = true)
      (hr' : decide (r'.name = name) = true) : compareOn ResourcePlan.name r r' = .eq := by
    rw [compareOn, of_decide_eq_true hr, of_decide_eq_true hr']
    exact compare_self
  have hfilter := filter_mergeSort htie p.resources
  rw [normalize, List.filter_map]
  exact congrArg (List.map ResourcePlan.normalize) hfilter

/-- Plans have one normal form exactly if the resources of every name have. -/
theorem normalize_eq_iff {p p' : Plan} :
    p.normalize = p'.normalize ↔ ∀ name, p.normalFormsOf name = p'.normalFormsOf name := by
  constructor
  · intro h name
    rw [← filter_normalize_resources, h, filter_normalize_resources]
  · intro h
    apply Plan.ext
    apply eq_of_filter_key_eq p.normal_normalize.ascending p'.normal_normalize.ascending
    intro name
    rw [filter_normalize_resources, filter_normalize_resources, h]

theorem normalize_resources_perm (p : Plan) :
    p.normalize.resources.Perm (p.resources.map ResourcePlan.normalize) :=
  (List.mergeSort_perm _ _).map _

theorem Rearranged.normalize_perm {p p' : Plan} (h : p.Rearranged p') :
    p.normalize.resources.Perm p'.normalize.resources := by
  obtain ⟨resources, hperm, hsame⟩ := h
  have hforms : resources.map ResourcePlan.normalize = p'.resources.map ResourcePlan.normalize := by
    rw [← List.forall₂_eq_eq_eq, List.forall₂_map_left_iff, List.forall₂_map_right_iff]
    exact hsame.imp fun _ _ => ResourcePlan.SameFields.normalize_eq
  have hp := normalize_resources_perm p
  have hp' := normalize_resources_perm p'
  rw [← hforms] at hp'
  exact hp.trans ((hperm.map _).trans hp'.symm)

/-- Where no name occurs twice, the order of resources is the order of their names. -/
theorem Rearranged.normalize_eq {p p' : Plan} (h : p.Rearranged p')
    (hnodup : (p.resources.map (·.name)).Nodup) : p.normalize = p'.normalize := by
  have hnames : (p.normalize.resources.map (·.name)).Nodup := by
    rw [((normalize_resources_perm p).map _).nodup_iff, List.map_map]
    exact hnodup
  apply Plan.ext
  apply List.Perm.eq_of_pairwise _ p.normal_normalize.ascending p'.normal_normalize.ascending
    h.normalize_perm
  intro r r' hr hr' hle hle'
  have hname : r.name = r'.name :=
    Std.compare_eq_iff_eq.mp (OrientedCmp.isLE_antisymm hle hle')
  exact List.inj_on_of_nodup_map hnames hr (h.normalize_perm.mem_iff.mpr hr') hname

/-- The normal forms of a plan and of a rearranged one hold the same resources. They are equal
exactly if the resources of one name come in the same order in both, and so if no name occurs
twice. -/
theorem normalize_of_rearranged {p p' : Plan} (h : p.Rearranged p') :
    p.normalize.resources.Perm p'.normalize.resources ∧
      (p.normalize = p'.normalize ↔ ∀ name, p.normalFormsOf name = p'.normalFormsOf name) ∧
      ((p.resources.map (·.name)).Nodup → p.normalize = p'.normalize) :=
  ⟨h.normalize_perm, normalize_eq_iff, h.normalize_eq⟩

/-- The plan for a resource whose only view lists fields. -/
def listing (name : String) (fields : List FieldPlan) : ResourcePlan :=
  ⟨name, some ⟨fields⟩, none, none, none⟩

theorem rearranged_of_swap {r s r' s' : ResourcePlan} (hr : r.SameFields r')
    (hs : s.SameFields s') : Rearranged ⟨[r, s]⟩ ⟨[s', r']⟩ :=
  ⟨[s, r], List.Perm.swap s r [], .cons hs (.cons hr .nil)⟩

theorem sameFields_listing (name : String) {fields fields' : List FieldPlan}
    (h : ViewPlan.SameFields ⟨fields⟩ ⟨fields'⟩) :
    (listing name fields).SameFields (listing name fields') where
  name := rfl
  views kind := by
    cases kind with
    | list => exact .some h
    | _ => exact .none

theorem normalize_of_rearranged_orders :
    let id : FieldPlan := ⟨"id", none, none, some (.zero false)⟩
    let total : FieldPlan := ⟨"total", none, none, none⟩
    let p : Plan := ⟨[listing "Orders" [total, id], listing "Customers" [id]]⟩
    let p' : Plan := ⟨[listing "Customers" [id, id], listing "Orders" [id, total, total]]⟩
    p.Rearranged p' ∧ p.normalize.resources.Perm p'.normalize.resources ∧
      p.normalize = p'.normalize := by
  intro id total p p'
  have horders : ViewPlan.SameFields ⟨[total, id]⟩ ⟨[id, total, total]⟩ :=
    ViewPlan.sameFields_of_mem_iff (by decide) fun f => by simp [or_comm]
  have hcustomers : ViewPlan.SameFields ⟨[id]⟩ ⟨[id, id]⟩ :=
    ViewPlan.sameFields_of_mem_iff (by decide) fun f => by simp
  have h : p.Rearranged p' := rearranged_of_swap (sameFields_listing "Orders" horders)
    (sameFields_listing "Customers" hcustomers)
  obtain ⟨hperm, _, heq⟩ := normalize_of_rearranged h
  exact ⟨h, hperm, heq (by decide)⟩

/-- A plan with two resources of one name, each of which lists one field. -/
def oneNameTwice (path path' : String) : Plan :=
  ⟨[listing "A" [⟨path, none, none, none⟩], listing "A" [⟨path', none, none, none⟩]]⟩

theorem oneFieldPerPath_oneNameTwice (path path' : String) :
    (oneNameTwice path path').OneFieldPerPath := by
  have hview (path : String) : ViewPlan.OneFieldPerPath ⟨[⟨path, none, none, none⟩]⟩ := by
    intro f hf g hg _
    rw [List.mem_singleton.mp hf, List.mem_singleton.mp hg]
  intro r hr kind view hkind
  rcases List.mem_pair.mp hr with rfl | rfl <;> cases kind <;> cases hkind <;> exact hview _

/-- Two resources of one name keep their order in a normal form. -/
theorem order_of_one_name_is_kept :
    ¬ ∀ (payload payload' : Json) (p p' : Plan), payload.IsTree → payload'.IsTree →
      ofJson payload = .ok p → ofJson payload' = .ok p' → p.OneFieldPerPath →
      p'.OneFieldPerPath → p.Rearranged p' → p.normalize = p'.normalize := by
  intro h
  have hread : ofJson (oneNameTwice "b" "a").toJson = .ok (oneNameTwice "b" "a") := rfl
  have hread' : ofJson (oneNameTwice "a" "b").toJson = .ok (oneNameTwice "a" "b") := rfl
  have hrearranged : (oneNameTwice "b" "a").Rearranged (oneNameTwice "a" "b") :=
    rearranged_of_swap (sameFields_listing "A" fun _ => rfl) (sameFields_listing "A" fun _ => rfl)
  have heq := h _ _ _ _ (by decide) (by decide) hread hread' (oneFieldPerPath_oneNameTwice _ _)
    (oneFieldPerPath_oneNameTwice _ _) hrearranged
  have hnormal : (oneNameTwice "b" "a").normalize = oneNameTwice "b" "a" :=
    Normal.normalize_eq (by decide)
  have hnormal' : (oneNameTwice "a" "b").normalize = oneNameTwice "a" "b" :=
    Normal.normalize_eq (by decide)
  rw [hnormal, hnormal'] at heq
  exact absurd heq (by decide)

end Plan

end ApiScreens
