import ApiScreens.Proofs.Api.Partition
import ApiScreens.Proofs.Screen.Lowering
import ApiScreens.Proofs.Text.Slug

/-!
# Display names

A plan finds a resource by the slug of the name that it gives. Among resources grouped by tag, the
slug of a display name is the key of its resource. Among those grouped by path, it is so exactly if
a capital at the front of the path segment brings no letters or digits into the slug.
-/

namespace ApiScreens

open Text (slug KeepsSlug)

/-- The slug of a display name is the key if the name is a tag or the segment keeps its slug. -/
theorem Grouping.slug_resource_iff (grouping : Grouping) (prefixes tags : List String)
    (path : String) :
    slug (grouping.resource prefixes tags path).2 = (grouping.resource prefixes tags path).1 ↔
      grouping = .tag ∨ KeepsSlug (segment path prefixes) := by
  cases grouping with
  | tag => simp [resource]
  | path => simpa [resource] using Text.slug_capitalize_iff (segment path prefixes)

/-- A plan finds the one resource that has the slug of its name for a key. -/
theorem Plan.resourceOf?_eq_some_iff {model : ApiModel} {p : ResourcePlan} {r : Resource}
    (hkeys : model.resources.Pairwise fun r s => r.key < s.key) (hr : r ∈ model.resources) :
    resourceOf? model p = some r ↔ slug p.name = r.key := by
  constructor
  · intro h
    exact (key_of_resourceOf? h).symm
  · intro h
    obtain ⟨s, hs⟩ : ∃ s, resourceOf? model p = some s := by
      rw [← Option.isSome_iff_exists, resourceOf?, List.find?_isSome]
      exact ⟨r, hr, beq_iff_eq.mpr h.symm⟩
    have hnodup : (model.resources.map (·.key)).Nodup :=
      List.pairwise_map.mpr (hkeys.imp fun hlt => (String.ne_of_lt hlt))
    have hsame : s = r := List.inj_on_of_nodup_map hnodup (List.mem_of_find?_eq_some hs) hr
      ((key_of_resourceOf? hs).trans h)
    rw [hs, hsame]

namespace ApiBuild

variable {root : Json} {prefixes : List String} {b : ApiBuild} {r : Resource}

/-- The slug of the name of a resource is its key, and so a plan for that name finds the resource,
exactly if resources are grouped by tag or the path segment that names it keeps its slug. -/
theorem slug_name_iff (h : ofDocument root prefixes = .ok b) (hr : r ∈ b.model.resources) :
    ∃ first rest,
      Declaration.belonging b.grouping prefixes r.key (Declaration.all root) = first :: rest ∧
      r.name = first.resourceName b.grouping prefixes ∧
      (slug r.name = r.key ↔
        b.grouping = .tag ∨ KeepsSlug (Grouping.segment first.path prefixes)) ∧
      ∀ p : ResourcePlan, p.name = r.name →
        (Plan.resourceOf? b.model p = some r ↔ slug r.name = r.key) := by
  obtain ⟨_, resources, hgathers, hmodel⟩ := gathers_of_ofDocument h
  have hkeys : b.model.resources.Pairwise fun r s => r.key < s.key := by
    rw [hmodel]
    exact List.pairwise_map.mpr hgathers.keys
  have hmem := hr
  rw [hmodel] at hmem
  obtain ⟨r', hr', rfl⟩ := List.mem_map.mp hmem
  obtain ⟨first, rest, hbelong, hname, _⟩ := hgathers.own r' hr'
  have hkey : r'.key = first.resourceKey b.grouping prefixes := by
    have hfirst : first ∈ first :: rest := List.mem_cons_self
    rw [← hbelong] at hfirst
    exact (beq_iff_eq.mp (List.mem_filter.mp hfirst).2).symm
  refine ⟨first, rest, hbelong, hname, ?_, ?_⟩
  · show slug r'.name = r'.key ↔ _
    rw [hname, hkey]
    exact Grouping.slug_resource_iff b.grouping prefixes first.tags first.path
  · intro p hp
    rw [Plan.resourceOf?_eq_some_iff hkeys hr, hp]

/-- A document whose one path begins with a dotless `ı`, which is no ASCII letter while its capital
is one. -/
def riversRoot : Json :=
  let body : Json := .object [("content", .object [("application/json", .object [("schema",
    .object [("type", .string "object")])])])]
  .object [("paths", .object [
    ("/ırmaklar", .object [("get", .object [("responses", .object [("200", body)])])])])]

theorem ofDocument_riversRoot : ∃ b r, ofDocument riversRoot [] = .ok b ∧
    r ∈ b.model.resources ∧ slug r.name ≠ r.key := by
  have hmodel : (ofDocument riversRoot []).map
      (fun b => b.model.resources.map fun r => (r.key, r.name)) =
        .ok [("rmaklar", "Irmaklar")] := by
    decide +kernel
  obtain ⟨b, hb, hresources⟩ := map_eq_ok.mp hmodel
  obtain ⟨r, hr, hnames⟩ := List.map_eq_singleton_iff.mp hresources
  obtain ⟨hkey, hname⟩ := Prod.mk.inj hnames
  refine ⟨b, r, hb, ?_, ?_⟩
  · rw [hr]
    exact List.mem_singleton_self r
  · rw [hname, hkey]
    decide +kernel

theorem slug_name_iff_rivers : ∃ b r, ofDocument riversRoot [] = .ok b ∧
    r ∈ b.model.resources ∧ slug r.name ≠ r.key ∧ ∃ first rest,
      Declaration.belonging b.grouping [] r.key (Declaration.all riversRoot) = first :: rest ∧
      ¬ (b.grouping = .tag ∨ KeepsSlug (Grouping.segment first.path [])) := by
  obtain ⟨b, r, hb, hr, hne⟩ := ofDocument_riversRoot
  obtain ⟨first, rest, hbelong, _, hiff, _⟩ := slug_name_iff hb hr
  exact ⟨b, r, hb, hr, hne, first, rest, hbelong, fun hkeeps => hne (hiff.mpr hkeeps)⟩

/-- The slug of a display name need not be the key of its resource. -/
theorem capital_changes_slug : ¬ ∀ root prefixes b r, ofDocument root prefixes = .ok b →
    r ∈ b.model.resources → slug r.name = r.key := by
  intro h
  obtain ⟨b, r, hb, hr, hne⟩ := ofDocument_riversRoot
  exact hne (h riversRoot [] b r hb hr)

end ApiBuild

end ApiScreens
