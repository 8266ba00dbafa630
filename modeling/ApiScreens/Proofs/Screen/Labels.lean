import ApiScreens.Proofs.Plan.Acceptance
import ApiScreens.Proofs.Screen.Composition
import ApiScreens.Proofs.Text.Title

/-!
# Labels of screens

Every field has the label of the first entry for its path: the planned one without blanks around it,
or a title if that is blank or missing. Accepted plans have no blank paths, but a title is made of
the name at the end of a path alone and loses the separators. A name that is made of nothing else
leaves its field without a label.
-/

namespace ApiScreens

open Text

/-- The label of a planned field: what is planned unless it is blank, or else a title. -/
inductive FieldPlan.Labelled (f : FieldPlan) : String → Prop
  | planned {label : String} (given : f.label = some label) (visible : Visible label.toList) :
      Labelled f (trim label)
  | titled (blank : ∀ label ∈ f.label, ¬ Visible label.toList) : Labelled f (humanize f.path)

/-- The name at the end of a path has a character that is neither a separator nor blank. -/
def Text.EndsNamed (path : String) : Prop :=
  ∃ c ∈ lastPiece '.' path.toList, isWordSeparator c = false ∧ isBlank c = false

namespace FieldPlan

theorem labelled_labelFor (f : FieldPlan) : f.Labelled (ScreenSpec.labelFor f) := by
  rw [ScreenSpec.labelFor]
  cases hlabel : f.label with
  | none =>
      apply Labelled.titled
      intro given hgiven
      rw [hlabel] at hgiven
      contradiction
  | some label =>
      dsimp only
      by_cases hblank : isBlankText label = true
      · rw [if_pos hblank]
        apply Labelled.titled
        intro given hgiven hvisible
        obtain rfl : label = given := Option.some.inj (hlabel.symm.trans hgiven)
        rw [Visible, ← isBlankText_eq_false_iff, hblank] at hvisible
        contradiction
      · rw [if_neg hblank]
        have hvisible := isBlankText_eq_false_iff.mp (Bool.eq_false_iff.mpr hblank)
        exact Labelled.planned hlabel hvisible

/-- A label is visible if the planned one is or the name at the end of the path has more than
separators and blanks. -/
theorem Labelled.visible_iff {f : FieldPlan} {label : String} (h : f.Labelled label) :
    Visible label.toList ↔ (∃ given ∈ f.label, Visible given.toList) ∨ EndsNamed f.path := by
  cases h with
  | planned hgiven hvisible =>
      exact iff_of_true (visible_trim.mpr hvisible) (Or.inl ⟨_, hgiven, hvisible⟩)
  | titled hblank =>
      rw [or_iff_right fun ⟨given, hgiven, hvisible⟩ => hblank given hgiven hvisible]
      exact visible_humanize

end FieldPlan

namespace Plan

variable {payload : Json} {plan : Plan} {model : ApiModel} {specs : Keyed ScreenSpec}

/-- The paths of a plan that is accepted are not blank. -/
theorem visible_path_of_ofJson (h : ofJson payload = .ok plan) {p : ResourcePlan}
    (hp : p ∈ plan.resources) {f : FieldPlan} (hf : f ∈ p.views.entries) :
    Visible f.path.toList := by
  obtain ⟨read, -, hchecked⟩ := bind_eq_ok.mp h
  obtain ⟨rfl, hblank⟩ := checked_eq_ok_iff.mp hchecked
  obtain ⟨-, hpaths⟩ := forall_not_blankAt_iff.mp hblank p hp
  obtain ⟨kind, view, hview, hmem⟩ := ScreenSpec.mem_entries_iff.mp hf
  exact isBlankText_eq_false_iff.mp (hpaths kind view hview f hmem)

/-- In screens by an accepted plan every field has the label of the first entry for its path, a path
that is not blank. The label is visible exactly if the planned one is or the name at the end of
the path has a character that is neither a separator nor blank. -/
theorem labels_of_lower (hplan : ofJson payload = .ok plan)
    (hlower : plan.lower model = .ok specs) :
    ∀ e ∈ specs, ∀ field ∈ e.2.fields, ∃ p ∈ plan.resources, ∃ r, resourceOf? model p = some r ∧
      e.1 = r.key ∧ ∃ f, p.views.LeadsPath f ∧ field.name = f.path ∧ Visible f.path.toList ∧
        f.Labelled field.label ∧
        (Visible field.label.toList ↔
          (∃ given ∈ f.label, Visible given.toList) ∨ EndsNamed f.path) := by
  intro e he field hfield
  obtain ⟨p, hp, r, -, hresource, hkey, hscreens, -⟩ := (lowers_of_lower hlower).2 e he
  rw [hscreens] at hfield
  have hjoined := (ScreenSpec.forall₂_builtFields r.schemaFields p.views).flip
  obtain ⟨f, -, hleads, hjoins⟩ := exists_of_forall₂ hjoined hfield
  have hlabelled : f.Labelled field.label := by
    rw [hjoins.label]
    exact f.labelled_labelFor
  have hpath : Visible f.path.toList :=
    visible_path_of_ofJson hplan hp (List.mem_of_find?_eq_some hleads)
  exact ⟨p, hp, r, hresource, hkey, f, hleads, hjoins.name, hpath, hlabelled, hlabelled.visible_iff⟩

/-- A model with things that have one property. -/
def thingsModel (property : String) : ApiModel :=
  let things : Json := .object [("properties", .object [(property, .object [])])]
  ⟨⟨"T", "1"⟩, [⟨"Things", "things", [⟨"list", .get, .list, "/things", none, none, things⟩]⟩]⟩

/-- The plan that lists one property of things. -/
def listingPlan (property : String) : Plan :=
  ⟨[⟨"Things", ⟨some ⟨[⟨property, none, none, none⟩]⟩, none, none, none⟩⟩]⟩

/-- A value that writes the plan. -/
def listingValue (property : String) : Json :=
  .object [("resources", .array [.object [("name", .string "Things"), ("views", .object [("list",
    .object [("fields", .array [.object [("path", .string property)]])])])]])]

/-- The screens by the plan if the property has this label. -/
def listingScreens (property label : String) : Keyed ScreenSpec :=
  [("things", ⟨"Things", [⟨property, label, .string, false, none, none⟩], [property], [property],
    [property], none⟩)]

/-- A name of two words has them for its label. -/
theorem labels_of_lower_words :
    ofJson (listingValue "first_name") = .ok (listingPlan "first_name") ∧
      (listingPlan "first_name").lower (thingsModel "first_name") =
        .ok (listingScreens "first_name" "First Name") ∧
      EndsNamed "first_name" ∧ Visible "First Name".toList := by
  have hplan : ofJson (listingValue "first_name") = .ok (listingPlan "first_name") := by rfl
  have hlower : (listingPlan "first_name").lower (thingsModel "first_name") =
      .ok (listingScreens "first_name" "First Name") := by
    decide +kernel
  have hnamed : EndsNamed "first_name" := ⟨'f', by decide, by decide, by decide⟩
  obtain ⟨-, -, -, -, -, f, -, hname, -, -, hvisible⟩ := labels_of_lower hplan hlower _
    List.mem_cons_self _ List.mem_cons_self
  exact ⟨hplan, hlower, hnamed, hvisible.mpr (Or.inr (hname ▸ hnamed))⟩

/-- A name that is made of separators has an empty label. -/
theorem separators_have_no_label : ¬ ∀ (payload : Json) (plan : Plan) (model : ApiModel)
    (specs : Keyed ScreenSpec), ofJson payload = .ok plan → plan.lower model = .ok specs →
      ∀ e ∈ specs, ∀ field ∈ e.2.fields, Visible field.label.toList := by
  intro h
  have hplan : ofJson (listingValue "_") = .ok (listingPlan "_") := by rfl
  have hlower : (listingPlan "_").lower (thingsModel "_") = .ok (listingScreens "_" "") := by
    decide +kernel
  obtain ⟨c, hc, -⟩ := h _ _ _ _ hplan hlower _ List.mem_cons_self _ List.mem_cons_self
  contradiction

end Plan

end ApiScreens
