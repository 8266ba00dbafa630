import ApiScreens.Proofs.Json.Tree
import ApiScreens.Proofs.Outcome
import ApiScreens.Proofs.Screen.Validity

/-!
# Lowering answers sound screens

Lowering a plan answers sound screens under the keys of their resources. It fails at the first
resource of the plan that the model does not have or that has no field left, and for no other
reason: no screens made from a plan name a field that they lack or have a choice without options.
-/

namespace ApiScreens

open ScreenSpec

/-- Sound screens are valid. -/
theorem ScreenSpec.Sound.error?_eq_none {r : Resource} {s : ScreenSpec} (h : s.Sound r) :
    s.error? = none := by
  have hknown {area : String} {names : List String} (hsubset : names ⊆ s.fields.map (·.name)) :
      s.unknownIn? (area, names) = none := by
    unfold unknownIn?
    rw [Option.map_eq_none_iff, List.find?_eq_none]
    intro name hname
    obtain ⟨f, hf, hsame⟩ := List.mem_map.mp (hsubset hname)
    rw [Option.isNone_iff_eq_none, field?, List.find?_eq_none]
    intro hnone
    exact hnone f hf (beq_iff_eq.mpr hsame)
  have hareas : s.areas.findSome? s.unknownIn? = none := by
    simp [areas, hknown h.columns_subset, hknown h.formFields_subset, hknown h.filters_subset]
  have hchoices : s.fields.find? (·.lacksOptions) = none := by
    rw [List.find?_eq_none]
    intro f hf hlacks
    obtain ⟨htype, hempty⟩ := Bool.and_eq_true_iff.mp hlacks
    obtain ⟨options, hoptions, hne⟩ := h.options f hf (beq_iff_eq.mp htype)
    rw [hoptions, Option.all_some, List.isEmpty_iff] at hempty
    exact hne hempty
  rw [error?, if_neg (by simpa using h.fields_ne_nil), hareas, hchoices]
  rfl

theorem validated_ofPlan {r : Resource} {views : Views} (h : (ofPlan r views).fields ≠ []) :
    (ofPlan r views).validated = .ok (ofPlan r views) := by
  rw [validated, (sound_ofPlan h).error?_eq_none]

theorem validated_ofPlan_of_nil {r : Resource} {views : Views}
    (h : (ofPlan r views).fields = []) :
    (ofPlan r views).validated = .error (.noFields r.name) := by
  have herror : (ofPlan r views).error? = some (.noFields r.name) := by
    rw [error?, if_pos (List.isEmpty_iff.mpr h)]
    rfl
  rw [validated, herror]

namespace Plan

section Step

variable {model : ApiModel} {specs specs' : Keyed ScreenSpec} {p : ResourcePlan}

/-- The resource of a model that a plan for a resource is for. -/
def resourceOf? (model : ApiModel) (p : ResourcePlan) : Option Resource :=
  model.resources.find? (·.key == Text.slug p.name)

theorem key_of_resourceOf? {r : Resource} (h : resourceOf? model p = some r) :
    r.key = Text.slug p.name := by
  have hfound := List.find?_some h
  exact beq_iff_eq.mp hfound

/-- The screens that a step adds are sound and stand under the key of their resource. -/
theorem lowerResource_ok (h : lowerResource model specs p = .ok specs') :
    ∃ r, resourceOf? model p = some r ∧ ((specs.has r.key = true ∧ specs' = specs) ∨
      (specs.has r.key = false ∧ (ofPlan r p.views).Sound r ∧
        specs' = specs.insert r.key (ofPlan r p.views))) := by
  unfold lowerResource at h
  split at h
  · contradiction
  · rename_i r hr
    refine ⟨r, hr, ?_⟩
    split at h
    · rename_i hhas
      exact Or.inl ⟨hhas, (Except.ok.inj h).symm⟩
    · rename_i hhas
      right
      by_cases hfields : (ofPlan r p.views).fields = []
      · rw [validated_ofPlan_of_nil hfields] at h
        contradiction
      · rw [validated_ofPlan hfields] at h
        exact ⟨Bool.eq_false_iff.mpr hhas, sound_ofPlan hfields, (Except.ok.inj h).symm⟩

/-- A step fails for a resource that the model does not have, or that has no field left. -/
theorem lowerResource_error {e : ScreenError} (h : lowerResource model specs p = .error e) :
    (resourceOf? model p = none ∧ e = .noResource p.name) ∨
      ∃ r, resourceOf? model p = some r ∧ specs.has r.key = false ∧
        (ofPlan r p.views).fields = [] ∧ e = .noFields r.name := by
  unfold lowerResource at h
  split at h
  · rename_i hnone
    exact Or.inl ⟨hnone, (Except.error.inj h).symm⟩
  · rename_i r hr
    right
    refine ⟨r, hr, ?_⟩
    split at h
    · contradiction
    · rename_i hhas
      by_cases hfields : (ofPlan r p.views).fields = []
      · rw [validated_ofPlan_of_nil hfields] at h
        exact ⟨Bool.eq_false_iff.mpr hhas, hfields, (Except.error.inj h).symm⟩
      · rw [validated_ofPlan hfields] at h
        contradiction

end Step

/-- Screens that a plan has for a resource of a model, under its key. -/
def Lowers (model : ApiModel) (plan : Plan) (key : String) (s : ScreenSpec) : Prop :=
  ∃ p ∈ plan.resources, ∃ r ∈ model.resources, resourceOf? model p = some r ∧ key = r.key ∧
    s = ofPlan r p.views ∧ s.Sound r

/-- The screens lowered so far keep their form with every resource of the plan. -/
theorem lowers_of_lower {model : ApiModel} {plan : Plan} {specs : Keyed ScreenSpec}
    (h : plan.lower model = .ok specs) :
    specs.Ascending ∧ ∀ e ∈ specs, Lowers model plan e.1 e.2 := by
  apply foldlM_invariant
    (P := fun specs : Keyed ScreenSpec =>
      specs.Ascending ∧ ∀ e ∈ specs, Lowers model plan e.1 e.2) h
  · exact ⟨List.Pairwise.nil, List.forall_mem_nil _⟩
  · intro specs specs' p hp hspecs hstep
    obtain ⟨r, hr, ⟨_, rfl⟩ | ⟨_, hsound, rfl⟩⟩ := lowerResource_ok hstep
    · exact hspecs
    · constructor
      · exact Keyed.insert_ascending _ _ hspecs.1
      · intro e he
        rcases Keyed.mem_insert he with rfl | he
        · exact ⟨p, hp, r, List.mem_of_find?_eq_some hr, hr, rfl, rfl, hsound⟩
        · exact hspecs.2 e he

/-- Lowering answers sound screens by the keys of their resources, or fails at the first resource of
the plan that matches none of the model or that has no field left. -/
theorem lower_outcome (model : ApiModel) (plan : Plan) :
    (∀ specs, plan.lower model = .ok specs →
      specs.Ascending ∧ ∀ e ∈ specs, Lowers model plan e.1 e.2) ∧
    ∀ e, plan.lower model = .error e →
      ∃ before p after specs, plan.resources = before ++ p :: after ∧
        Plan.lower model ⟨before⟩ = .ok specs ∧
        ((resourceOf? model p = none ∧ e = .noResource p.name ∧
            e.message = s!"plan resource '{p.name}' matches no ApiIR resource") ∨
          ∃ r, resourceOf? model p = some r ∧ specs.has r.key = false ∧
            (ofPlan r p.views).fields = [] ∧ e = .noFields r.name ∧
            e.message = s!"{r.name}: no usable fields") := by
  constructor
  · intro specs h
    exact lowers_of_lower h
  · intro e h
    obtain ⟨before, p, after, specs, hplan, hbefore, hfail⟩ := foldlM_eq_error h
    refine ⟨before, p, after, specs, hplan, hbefore, ?_⟩
    rcases lowerResource_error hfail with ⟨hnone, rfl⟩ | ⟨r, hr, hnew, hfields, rfl⟩
    · exact Or.inl ⟨hnone, rfl, rfl⟩
    · exact Or.inr ⟨r, hr, hnew, hfields, rfl, rfl⟩

/-- A model with one resource, whose lists show a choice. -/
def sampleModel : ApiModel :=
  let choice : Json := .object [("enum", .array [.string "x"])]
  let schema : Json := .object [("properties", .object [("a", choice)])]
  ⟨⟨"Sample", "1"⟩, [⟨"Items", "items", [⟨"list", .get, .list, "/items", none, none, schema⟩]⟩]⟩

/-- A plan to list one field of a resource. -/
def samplePlan (name path : String) : Plan :=
  ⟨[⟨name, ⟨some ⟨[⟨path, none, none, none⟩]⟩, none, none, none⟩⟩]⟩

theorem lower_outcome_sample :
    (∃ specs, (samplePlan "Items" "a").lower sampleModel = .ok specs ∧
      specs.map (·.1) = ["items"] ∧
      ∀ e ∈ specs, Lowers sampleModel (samplePlan "Items" "a") e.1 e.2) ∧
    ∃ e, (samplePlan "Items" "b").lower sampleModel = .error e ∧
      ∃ before p after, (samplePlan "Items" "b").resources = before ++ p :: after := by
  constructor
  · have hkeys : ((samplePlan "Items" "a").lower sampleModel).map (·.map (·.1)) =
        .ok ["items"] := by
      decide +kernel
    obtain ⟨specs, hspecs, hkeys⟩ := map_eq_ok.mp hkeys
    exact ⟨specs, hspecs, hkeys, ((lower_outcome _ _).1 specs hspecs).2⟩
  · have hfail : (samplePlan "Items" "b").lower sampleModel = .error (.noFields "Items") := by
      decide +kernel
    obtain ⟨before, p, after, _, hplan, _⟩ := (lower_outcome _ _).2 _ hfail
    exact ⟨_, hfail, before, p, after, hplan⟩

end Plan

end ApiScreens
