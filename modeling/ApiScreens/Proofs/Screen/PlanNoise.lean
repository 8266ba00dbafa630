import ApiScreens.Proofs.Plan.Rearrangement
import ApiScreens.Proofs.Screen.Composition
import ApiScreens.Proofs.Screen.Correspondence

/-!
# Noise in plans

Entries of a plan for paths that the schemas of their resource do not know leave no trace in what is
lowered, however many there are and wherever they stand. Where resources have different slugs, their
order in a plan changes neither whether screens are made nor which.
-/

namespace ApiScreens

open ScreenSpec

/-- Two lists of entries are the same but for entries for unknown paths, which one of them has and
the other has not. -/
inductive FieldPlan.Noise (unknown : String → Prop) : List FieldPlan → List FieldPlan → Prop
  | nil : Noise unknown [] []
  | keep {fields fields' : List FieldPlan} (f : FieldPlan) (rest : Noise unknown fields fields') :
      Noise unknown (f :: fields) (f :: fields')
  | added {fields fields' : List FieldPlan} {f : FieldPlan} (h : unknown f.path)
      (rest : Noise unknown fields fields') : Noise unknown fields (f :: fields')
  | removed {fields fields' : List FieldPlan} {f : FieldPlan} (h : unknown f.path)
      (rest : Noise unknown fields fields') : Noise unknown (f :: fields) fields'

/-- A path that the schemas of the resource do not know for which a plan is, if there is one. -/
def ResourcePlan.Unknown (model : ApiModel) (p : ResourcePlan) (path : String) : Prop :=
  ∀ r, Plan.resourceOf? model p = some r → r.schemaFields.has path = false

/-- Two plans for a resource have the same views, but for entries for unknown paths. -/
structure ResourcePlan.Noise (model : ApiModel) (p p' : ResourcePlan) : Prop where
  name : p.name = p'.name
  views : ∀ kind, Option.Rel
    (fun view view' => FieldPlan.Noise (p.Unknown model) view.fields view'.fields)
    (p.views.get? kind) (p'.views.get? kind)

/-- Two plans have the same resources, but for entries for unknown paths. -/
def Plan.Noise (model : ApiModel) (plan plan' : Plan) : Prop :=
  List.Forall₂ (ResourcePlan.Noise model) plan.resources plan'.resources

section Known

variable {known : String → Bool}

/-- Two views have the same entries for the paths that are known. -/
def ViewPlan.AgreeOn (known : String → Bool) (view view' : ViewPlan) : Prop :=
  (view.fields.filter fun f => known f.path) = view'.fields.filter fun f => known f.path

theorem FieldPlan.Noise.filter_eq {unknown : String → Prop} {fields fields' : List FieldPlan}
    (h : Noise unknown fields fields') (hknown : ∀ path, unknown path → known path = false) :
    (fields.filter fun f => known f.path) = fields'.filter fun f => known f.path := by
  induction h with
  | nil => rfl
  | keep f _ ih => rw [List.filter_cons, List.filter_cons, ih]
  | added h _ ih => rw [List.filter_cons, hknown _ h, if_neg Bool.false_ne_true, ih]
  | removed h _ ih => rw [List.filter_cons, hknown _ h, if_neg Bool.false_ne_true, ih]

/-- Taking the known entries of a view commutes with bringing it to normal form. -/
theorem ViewPlan.filter_normalizeFields (fields : List FieldPlan) :
    (normalizeFields fields).filter (fun f => known f.path) =
      normalizeFields (fields.filter fun f => known f.path) := by
  have hnodup : ((distinctBy (·.path) fields).map (·.path)).Nodup := distinctBy_keys_nodup fields
  symm
  apply FieldPlan.sort_eq
  · rw [← filter_distinctBy]
    exact (normalizeFields_perm fields).symm.filter _
  · exact (FieldPlan.sort_precedes hnodup).filter _

theorem ViewPlan.AgreeOn.normalize {view view' : ViewPlan} (h : view.AgreeOn known view') :
    view.normalize.AgreeOn known view'.normalize := by
  unfold AgreeOn ViewPlan.normalize at *
  rw [filter_normalizeFields, filter_normalizeFields, h]

/-- Two plans for a resource have views of the same kinds, which agree on the paths that are
known. -/
def Views.AgreeOn (known : String → Bool) (views views' : Views) : Prop :=
  ∀ kind, Option.Rel (ViewPlan.AgreeOn known) (views.get? kind) (views'.get? kind)

namespace Views

variable {views views' : Views}

theorem AgreeOn.normalize (h : views.AgreeOn known views') :
    (views.map ViewPlan.normalize).AgreeOn known (views'.map ViewPlan.normalize) := by
  intro kind
  have hview := h kind
  rw [get?_map, get?_map]
  generalize views.get? kind = a at hview
  generalize views'.get? kind = b at hview
  cases hview with
  | none => exact .none
  | some hagree => exact .some hagree.normalize

section Gather

variable {α : Type}

theorem filter_gather (views : Views) (get : ViewPlan → List α) (p : α → Bool)
    (kinds : List ViewKind) :
    (views.gather get kinds).filter p = views.gather (fun view => (get view).filter p) kinds := by
  unfold gather
  rw [List.filter_flatMap]
  congr 1
  funext kind
  cases views.get? kind <;> rfl

/-- Views that agree have the same of what depends on known entries alone. -/
theorem AgreeOn.gather_eq (h : views.AgreeOn known views') {get : ViewPlan → List α}
    (hget : ∀ view view', view.AgreeOn known view' → get view = get view')
    (kinds : List ViewKind) : views.gather get kinds = views'.gather get kinds := by
  unfold gather
  congr 1
  funext kind
  have hview := h kind
  generalize views.get? kind = a at hview
  generalize views'.get? kind = b at hview
  cases hview with
  | none => rfl
  | some hagree => exact hget _ _ hagree

end Gather

theorem AgreeOn.filter_entries (h : views.AgreeOn known views') :
    (views.entries.filter fun f => known f.path) = views'.entries.filter fun f => known f.path := by
  rw [entries, entries, filter_gather, filter_gather]
  exact h.gather_eq (fun _ _ hagree => hagree) _

theorem AgreeOn.filter_paths (h : views.AgreeOn known views') (kinds : List ViewKind) :
    (views.gather (·.paths) kinds).filter known = (views'.gather (·.paths) kinds).filter known := by
  rw [filter_gather, filter_gather]
  apply h.gather_eq
  intro view view' hagree
  unfold ViewPlan.paths
  rw [List.filter_map, List.filter_map]
  exact congrArg (List.map _) hagree

end Views

end Known

namespace ScreenSpec

section Agreement

variable {known : FieldMap} {views views' : Views}

theorem plannedFields_eq_of_agreeOn (h : views.AgreeOn known.has views') :
    plannedFields known views = plannedFields known views' := by
  rw [plannedFields_eq, plannedFields_eq, h.filter_entries]

/-- Of the paths of views only those matter that name fields, which are all known. -/
theorem viewPaths_eq_of_agreeOn {fields : List ScreenField}
    (hfields : ∀ f ∈ fields, known.has f.name = true) (h : views.AgreeOn known.has views')
    (kinds : List ViewKind) : viewPaths fields views kinds = viewPaths fields views' kinds := by
  have hknown (paths : List String) : (paths.filter fun p => fields.any (·.name == p)) =
      (paths.filter known.has).filter fun p => fields.any (·.name == p) := by
    rw [List.filter_filter]
    apply List.filter_congr
    intro p _
    rw [Bool.eq_iff_iff, Bool.and_eq_true, iff_self_and]
    intro hany
    obtain ⟨f, hf, hname⟩ := List.any_eq_true.mp hany
    exact beq_iff_eq.mp hname ▸ hfields f hf
  rw [viewPaths_eq, viewPaths_eq, hknown, h.filter_paths, ← hknown]

/-- The screens of a resource depend on known entries alone. -/
theorem ofPlan_eq_of_agreeOn {r : Resource} (h : views.AgreeOn r.schemaFields.has views') :
    ofPlan r views = ofPlan r views' := by
  have hbuilt : builtFields r.schemaFields views = builtFields r.schemaFields views' := by
    rw [builtFields, plannedFields_eq_of_agreeOn h, builtFields]
  have hpaths : viewPaths (builtFields r.schemaFields views') views =
      viewPaths (builtFields r.schemaFields views') views' :=
    funext (viewPaths_eq_of_agreeOn (fun _ => known_of_mem_builtFields) h)
  rw [ofPlan_eq_ofFields, ofPlan_eq_ofFields, hbuilt, ofFields, ofFields, hpaths]

end Agreement

end ScreenSpec

namespace Plan

variable {model : ApiModel}

/-- A step for a resource depends on its name and on its screens alone. -/
theorem lowerResource_eq {p p' : ResourcePlan} (hname : p.name = p'.name)
    (hscreens : ∀ r, resourceOf? model p = some r → ofPlan r p.views = ofPlan r p'.views)
    (specs : Keyed ScreenSpec) : lowerResource model specs p = lowerResource model specs p' := by
  unfold lowerResource
  rw [← hname]
  split
  · rfl
  · rename_i r hr
    rw [hscreens r hr]

/-- Noise in a plan for a resource is gone once the plan is lowered in normal form. -/
theorem lowerResource_of_noise {p p' : ResourcePlan} (h : p.Noise model p')
    (specs : Keyed ScreenSpec) :
    lowerResource model specs p.normalize = lowerResource model specs p'.normalize := by
  refine @lowerResource_eq model p.normalize p'.normalize h.name ?_ specs
  intro r hr
  apply ofPlan_eq_of_agreeOn
  apply Views.AgreeOn.normalize
  intro kind
  refine rel_imp (h.views kind) fun view view' _ _ hnoise => ?_
  exact hnoise.filter_eq fun path hunknown => hunknown r hr

theorem lower_of_noise {plan plan' : Plan} (h : Noise model plan plan') :
    plan.normalize.lower model = plan'.normalize.lower model := by
  have hsorted : List.Forall₂ (ResourcePlan.Noise model)
      (plan.resources.mergeSort fun a b => compare a.name b.name != .gt)
      (plan'.resources.mergeSort fun a b => compare a.name b.name != .gt) :=
    forall₂_mergeSort h fun _ _ _ _ hab hab' => by rw [hab.name, hab'.name]
  unfold lower normalize
  rw [List.foldlM_map, List.foldlM_map]
  exact foldlM_eq_of_forall₂ (hsorted.imp fun _ _ => lowerResource_of_noise) []

section Order

/-- A plan for a resource makes the screens of the resource, under its key. -/
def Makes (model : ApiModel) (p : ResourcePlan) (e : String × ScreenSpec) : Prop :=
  ∃ r, resourceOf? model p = some r ∧ (ofPlan r p.views).fields ≠ [] ∧
    e = (r.key, ofPlan r p.views)

variable {p : ResourcePlan} {e : String × ScreenSpec} {specs specs' : Keyed ScreenSpec}

theorem Makes.key (h : Makes model p e) : e.1 = Text.slug p.name := by
  obtain ⟨r, hr, _, rfl⟩ := h
  exact key_of_resourceOf? hr

theorem Makes.unique {e' : String × ScreenSpec} (h : Makes model p e) (h' : Makes model p e') :
    e = e' := by
  obtain ⟨r, hr, _, rfl⟩ := h
  obtain ⟨r', hr', _, rfl⟩ := h'
  obtain rfl : r = r' := Option.some.inj (hr.symm.trans hr')
  rfl

/-- A step for a resource that has no screens yet adds those that the plan makes, if any. -/
theorem lowerResource_eq_ok_iff (hnew : specs.has (Text.slug p.name) = false) :
    lowerResource model specs p = .ok specs' ↔
      ∃ e, Makes model p e ∧ specs' = specs.insert e.1 e.2 := by
  constructor
  · intro h
    obtain ⟨r, hr, ⟨hhas, _⟩ | ⟨_, hsound, rfl⟩⟩ := lowerResource_ok h
    · rw [key_of_resourceOf? hr, hnew] at hhas
      contradiction
    · exact ⟨_, ⟨r, hr, hsound.fields_ne_nil, rfl⟩, rfl⟩
  · rintro ⟨_, ⟨r, hr, hfields, rfl⟩, rfl⟩
    have hfind : model.resources.find? (·.key == Text.slug p.name) = some r := hr
    rw [lowerResource, hfind]
    dsimp only
    rw [key_of_resourceOf? hr, hnew, validated_ofPlan hfields]
    rfl

/-- Of resources with different slugs a run answers, in the order of their keys, the screens that
the plan makes for each of them. -/
theorem foldlM_lowerResource_eq_ok_iff {resources : List ResourcePlan}
    (hslugs : (resources.map fun p => Text.slug p.name).Nodup) (hascending : specs.Ascending)
    (hnew : ∀ p ∈ resources, specs.has (Text.slug p.name) = false) :
    resources.foldlM (lowerResource model) specs = .ok specs' ↔
      (∀ p ∈ resources, ∃ e, Makes model p e) ∧ specs'.Ascending ∧
        ∀ e, e ∈ specs' ↔ e ∈ specs ∨ ∃ p ∈ resources, Makes model p e := by
  induction resources generalizing specs with
  | nil =>
      simp only [List.foldlM_nil, List.not_mem_nil, false_and, exists_false, or_false]
      constructor
      · intro h
        obtain rfl := Except.ok.inj h
        exact ⟨nofun, hascending, fun _ => Iff.rfl⟩
      · rintro ⟨_, hascending', hmem⟩
        exact congrArg Except.ok (Keyed.eq_of_mem_iff hascending hascending' fun e => (hmem e).symm)
  | cons p rest ih =>
      obtain ⟨hfirst, hrest⟩ := List.nodup_cons.mp hslugs
      obtain ⟨hp, hnew⟩ := List.forall_mem_cons.mp hnew
      have hrun {e : String × ScreenSpec} (he : Makes model p e) :
          rest.foldlM (lowerResource model) (specs.insert e.1 e.2) = .ok specs' ↔
            (∀ q ∈ rest, ∃ e, Makes model q e) ∧ specs'.Ascending ∧ ∀ e', e' ∈ specs' ↔
              e' ∈ specs.insert e.1 e.2 ∨ ∃ q ∈ rest, Makes model q e' := by
        apply ih hrest (Keyed.insert_ascending _ _ hascending)
        intro q hq
        have hne : Text.slug q.name ≠ e.1 := fun heq =>
          hfirst (List.mem_map.mpr ⟨q, hq, heq.trans he.key⟩)
        rw [Keyed.has_insert_of_ne hne, hnew q hq]
      have hmem {e : String × ScreenSpec} (he : Makes model p e) (e' : String × ScreenSpec) :
          (e' ∈ specs.insert e.1 e.2 ∨ ∃ q ∈ rest, Makes model q e') ↔
            e' ∈ specs ∨ Makes model p e' ∨ ∃ q ∈ rest, Makes model q e' := by
        have hmakes : Makes model p e' ↔ e' = (e.1, e.2) :=
          ⟨fun h => h.unique he, fun h => h ▸ he⟩
        rw [Keyed.mem_insert_iff (he.key ▸ hp), hmakes, or_assoc, or_left_comm]
      rw [List.foldlM_cons, bind_eq_ok, List.forall_mem_cons]
      simp only [lowerResource_eq_ok_iff hp, List.exists_mem_cons_iff]
      constructor
      · rintro ⟨_, ⟨e, he, rfl⟩, hok⟩
        obtain ⟨hmakes, hascending', hspecs⟩ := (hrun he).mp hok
        exact ⟨⟨⟨e, he⟩, hmakes⟩, hascending', fun e' => (hspecs e').trans (hmem he e')⟩
      · rintro ⟨⟨⟨e, he⟩, hmakes⟩, hascending', hspecs⟩
        refine ⟨_, ⟨e, he, rfl⟩, (hrun he).mpr ⟨hmakes, hascending', ?_⟩⟩
        exact fun e' => (hspecs e').trans (hmem he e').symm

/-- A plan for resources with different slugs is lowered to the screens that it makes for each of
them, in the order of their keys. -/
theorem lower_eq_ok_iff {plan : Plan}
    (hslugs : (plan.resources.map fun p => Text.slug p.name).Nodup) :
    plan.lower model = .ok specs ↔ (∀ p ∈ plan.resources, ∃ e, Makes model p e) ∧
      specs.Ascending ∧ ∀ e, e ∈ specs ↔ ∃ p ∈ plan.resources, Makes model p e := by
  rw [lower, foldlM_lowerResource_eq_ok_iff hslugs List.Pairwise.nil fun _ _ => rfl]
  simp only [List.not_mem_nil, false_or]

variable {plan plan' : Plan}

theorem lower_of_perm (hslugs : (plan.resources.map fun p => Text.slug p.name).Nodup)
    (hperm : plan.resources.Perm plan'.resources) :
    plan.lower model = .ok specs ↔ plan'.lower model = .ok specs := by
  have hslugs' : (plan'.resources.map fun p => Text.slug p.name).Nodup :=
    (hperm.map _).nodup_iff.mp hslugs
  rw [lower_eq_ok_iff hslugs, lower_eq_ok_iff hslugs']
  simp only [hperm.mem_iff]

/-- Plans for resources with different names have one normal form in every order. -/
theorem normalize_of_perm (hnames : (plan.resources.map (·.name)).Nodup)
    (hperm : plan.resources.Perm plan'.resources) : plan.normalize = plan'.normalize := by
  have hties : ∀ p ∈ plan.resources, ∀ q ∈ plan.resources,
      compareOn ResourcePlan.name p q = .eq → p = q := by
    intro p hp q hq htie
    exact List.inj_on_of_nodup_map hnames hp hq (Std.compare_eq_iff_eq.mp htie)
  exact congrArg (fun resources => (⟨resources.map ResourcePlan.normalize⟩ : Plan))
    (mergeSort_eq_of_perm hties hperm)

end Order

/-- Noise in a plan changes nothing that is answered when the plan is lowered in normal form, be it
screens or an error. Putting resources with different slugs in another order changes neither that
nor, for the plan as it is, whether screens are answered and which. -/
theorem lower_unaffected (model : ApiModel) (plan plan' : Plan) :
    (Noise model plan plan' → plan.normalize.lower model = plan'.normalize.lower model) ∧
    ((plan.resources.map fun p => Text.slug p.name).Nodup →
      plan.resources.Perm plan'.resources →
      plan.normalize.lower model = plan'.normalize.lower model ∧
      ∀ specs, plan.lower model = .ok specs ↔ plan'.lower model = .ok specs) := by
  refine ⟨lower_of_noise, fun hslugs hperm => ⟨?_, fun specs => lower_of_perm hslugs hperm⟩⟩
  have hnames : (plan.resources.map (·.name)).Nodup := by
    apply List.Nodup.of_map Text.slug
    rwa [List.map_map]
  rw [normalize_of_perm hnames hperm]

/-- Owners, who are listed by their names. -/
def shopOwners : Resource :=
  let owner : Json := .object [("properties", .object [("name", .object [("type",
    .string "string")])])]
  ⟨"Owners", "owners", [⟨"owners", .get, .list, "/owners", none, none, owner⟩]⟩

/-- A model of goods and of their owners. -/
def shopModel : ApiModel := ⟨⟨"Shop", "1"⟩, [shopGoods, shopOwners]⟩

/-- A plan to list goods by some paths, which lists owners by their names as well. -/
def shopPlan (paths : List String) : Plan :=
  let fields (paths : List String) : List FieldPlan :=
    paths.map fun path => ⟨path, none, none, none⟩
  ⟨[listing "Goods" (fields paths), listing "Owners" (fields ["name"])]⟩

theorem lower_unaffected_shop :
    (Noise shopModel (shopPlan ["title"]) (shopPlan ["weight", "title", "weight"]) ∧
      (shopPlan ["title"]).normalize.lower shopModel =
        (shopPlan ["weight", "title", "weight"]).normalize.lower shopModel) ∧
    ∃ specs, (shopPlan ["title"]).lower shopModel = .ok specs ∧
      lower shopModel ⟨(shopPlan ["title"]).resources.reverse⟩ = .ok specs ∧
      specs.map (·.1) = ["goods", "owners"] := by
  have hunknown (fields : List FieldPlan) :
      (listing "Goods" fields).Unknown shopModel "weight" := by
    have hgoods : resourceOf? shopModel (listing "Goods" fields) = some shopGoods := by
      have hslug : Text.slug "Goods" = "goods" := by decide +kernel
      change shopModel.resources.find? (·.key == Text.slug "Goods") = some shopGoods
      rw [hslug]
      rfl
    intro r hr
    obtain rfl : shopGoods = r := Option.some.inj (hgoods.symm.trans hr)
    decide +kernel
  have hnoise : Noise shopModel (shopPlan ["title"]) (shopPlan ["weight", "title", "weight"]) := by
    refine .cons ⟨rfl, fun kind => ?_⟩ (.cons ⟨rfl, fun kind => ?_⟩ .nil)
    · cases kind with
      | list => exact .some (.added (hunknown _) (.keep _ (.added (hunknown _) .nil)))
      | _ => exact .none
    · cases kind with
      | list => exact .some (.keep _ .nil)
      | _ => exact .none
  have hkeys : ((shopPlan ["title"]).lower shopModel).map (·.map (·.1)) =
      .ok ["goods", "owners"] := by
    decide +kernel
  obtain ⟨specs, hspecs, hkeys⟩ := map_eq_ok.mp hkeys
  have hperm := (List.reverse_perm (shopPlan ["title"]).resources).symm
  have hreversed := (lower_unaffected shopModel (shopPlan ["title"])
    ⟨(shopPlan ["title"]).resources.reverse⟩).2 (by decide +kernel) hperm
  exact ⟨⟨hnoise, (lower_unaffected shopModel _ _).1 hnoise⟩, specs, hspecs,
    (hreversed.2 specs).mp hspecs, hkeys⟩

end Plan

end ApiScreens
