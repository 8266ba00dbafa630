import ApiScreens.Planner.Basic
import ApiScreens.Proofs.Plan.Acceptance
import ApiScreens.Proofs.Plan.WrittenPlan
import ApiScreens.Proofs.Schema.Occurrences

/-!
# The plan that follows from schemas

Of the resources of an API the plan has the expected views, and each lists the properties of the
object schema that it shows, in ascending order and numbered from zero. Nothing in the plan is blank
if no name is, so the plan is accepted. It is also what the payload of names and numbers is read as.
-/

namespace ApiScreens

namespace Resource

variable {r : Resource} {view : ViewKind} {s : Json}

/-- The object schema whose properties a view of the resource shows. -/
def objectShown? (r : Resource) (view : ViewKind) : Option Json :=
  (r.shown? view).bind Schema.object?

/-- The view lists the properties of the object schema that it shows, ascending and numbered from
zero; none if there is no object schema. -/
structure Lists (r : Resource) (view : ViewKind) (v : ViewPlan) : Prop where
  paths : ∀ name, name ∈ v.paths ↔
    ∃ s, r.objectShown? view = some s ∧ (Schema.properties s).has name = true
  ascending : v.paths.Pairwise (· < ·)
  fields : v.fields = v.paths.zipIdx.map fun t => FieldPlan.atPlace t.1 t.2

/-- The plan has the expected views of the resource, each of which lists what it shows. -/
structure PlannedAs (r : Resource) (p : ResourcePlan) : Prop where
  name : p.name = r.name
  views : ∀ view, (p.views.get? view).isSome = true ↔ view ∈ r.expectedViews
  lists : ∀ view, ∀ v ∈ p.views.get? view, r.Lists view v

theorem mem_expectedViews_iff :
    view ∈ r.expectedViews ↔ (r.operation? view.operation).isSome = true := by
  simp [expectedViews, ViewKind.mem_all]

/-- A view that shows a schema is expected. -/
theorem mem_expectedViews_of_shown? (h : r.shown? view = some s) : view ∈ r.expectedViews := by
  apply mem_expectedViews_iff.mpr
  unfold shown? at h
  split at h
  · obtain ⟨op, hop, -⟩ := Option.bind_eq_some_iff.mp h
    exact hop ▸ rfl
  · obtain ⟨op, hop, -⟩ := Option.map_eq_some_iff.mp h
    exact hop ▸ rfl

theorem paths_derivedView (r : Resource) (view : ViewKind) : (r.derivedView view).paths =
    (r.objectShown? view).elim [] fun s => (Schema.properties s).map (·.1) := by
  simp only [ViewPlan.paths, derivedView, List.map_map]
  exact List.zipIdx_map_fst 0 _

theorem fields_derivedView (r : Resource) (view : ViewKind) : (r.derivedView view).fields =
    (r.derivedView view).paths.zipIdx.map fun t => FieldPlan.atPlace t.1 t.2 := by
  rw [paths_derivedView]
  rfl

theorem lists_derivedView (htrees : ∀ view, ∀ s ∈ r.shown? view, s.IsTree) (view : ViewKind) :
    r.Lists view (r.derivedView view) := by
  refine ⟨?paths, ?ascending, ?fields⟩
  case paths =>
    intro name
    rw [paths_derivedView]
    cases r.objectShown? view <;> simp [Keyed.has]
  case ascending =>
    rw [paths_derivedView]
    cases hshown : r.objectShown? view with
    | none => exact List.Pairwise.nil
    | some s =>
        obtain ⟨schema, hschema, hs⟩ := Option.bind_eq_some_iff.mp hshown
        have htree : s.IsTree :=
          (Schema.object?_eq_some_iff.mp hs).isTree (htrees view schema hschema)
        exact List.pairwise_map.mpr (htree.membersAt "properties").1
  case fields => exact fields_derivedView r view

theorem get?_derivedPlan (r : Resource) (view : ViewKind) :
    r.derivedPlan.views.get? view = r.derivedView? view := by
  cases view <;> rfl

theorem plannedAs_derivedPlan (htrees : ∀ view, ∀ s ∈ r.shown? view, s.IsTree) :
    r.PlannedAs r.derivedPlan := by
  refine ⟨rfl, ?views, ?lists⟩
  case views =>
    intro view
    rw [get?_derivedPlan, derivedView?]
    split <;> simp_all
  case lists =>
    intro view v hv
    rw [get?_derivedPlan, derivedView?] at hv
    split at hv
    · obtain rfl := Option.some.inj hv
      exact lists_derivedView htrees view
    · contradiction

/-- Neither the name of the resource nor that of a property that a view shows is blank. -/
structure Named (r : Resource) : Prop where
  name : Text.isBlankText r.name = false
  properties : ∀ view, ∀ s ∈ r.objectShown? view, ∀ m ∈ Schema.properties s,
    Text.isBlankText m.1 = false

theorem Named.everyField (h : r.Named) :
    r.derivedPlan.views.EveryField fun f => Text.isBlankText f.path = false := by
  intro view v hv
  rw [get?_derivedPlan, derivedView?] at hv
  split at hv
  · obtain rfl := Option.some.inj hv
    have hpaths : ∀ path ∈ (r.derivedView view).paths, Text.isBlankText path = false := by
      rw [paths_derivedView]
      cases hshown : r.objectShown? view with
      | none => exact List.forall_mem_nil _
      | some s => exact List.forall_mem_map.mpr (h.properties view s hshown)
    exact List.forall_mem_map.mp hpaths
  · contradiction

end Resource

theorem Plan.checked_derived {model : ApiModel} (h : ∀ r ∈ model.resources, r.Named) :
    (derived model).checked = .ok (derived model) := by
  refine checked_eq_ok_iff.mpr ⟨rfl, forall_not_blankAt_iff.mpr ?_⟩
  exact List.forall_mem_map.mpr fun r hr => ⟨(h r hr).name, (h r hr).everyField⟩

section Payload

/-- The payload of a field: its path and its place as an integer. -/
def FieldPlan.payload (path : String) (place : Nat) : Json :=
  .object [("path", .string path), ("order", .number (.ofWord (.ofNat place)))]

theorem FieldPlan.denotes_payload {path : String} {place : Nat} (h : place < UInt64.size) :
    Denotes (payload path place).sorted (atPlace path place) := by
  obtain ⟨entries, hwrites, hrequired, hoptional⟩ := Json.exists_writesRecord
    [("path", .string path)] [("label", none), ("readOnly", none),
      ("order", some (.number (.ofWord (.ofNat place))))] (by simp)
  simp only [List.forall_mem_cons] at hrequired hoptional
  obtain ⟨hlabel, hreadOnly, horder, -⟩ := hoptional
  refine ⟨entries, hwrites, ?path, ?label, ?readOnly, ?order⟩
  case path =>
    rw [hrequired.1]
    exact .entry rfl
  case label =>
    rw [hlabel]
    exact .absent
  case readOnly =>
    rw [hreadOnly]
    exact .absent
  case order =>
    rw [horder]
    refine .entry ⟨_, rfl, ?_⟩
    rw [Json.Number.ofWord, Json.Number.toDouble, UInt64.toNat_ofNat_of_lt' h]

namespace Resource

variable {r : Resource}

/-- The payload of a view. -/
def viewPayload (r : Resource) (view : ViewKind) : Json :=
  .object [("fields", .array ((r.derivedView view).paths.zipIdx.map fun t =>
    FieldPlan.payload t.1 t.2))]

/-- The payload of the expected views. -/
def viewsPayload (r : Resource) : Json :=
  .object (r.expectedViews.map fun view => (view.name, r.viewPayload view))

/-- The payload of a resource. -/
def payload (r : Resource) : Json :=
  .object [("name", .string r.name), ("views", r.viewsPayload)]

/-- The places of the properties that views show are words. -/
def Countable (r : Resource) : Prop :=
  ∀ view, ∀ s ∈ r.objectShown? view, (Schema.properties s).length ≤ UInt64.size

theorem Countable.length_paths (h : r.Countable) (view : ViewKind) :
    (r.derivedView view).paths.length ≤ UInt64.size := by
  rw [paths_derivedView]
  cases hshown : r.objectShown? view with
  | none => exact Nat.zero_le _
  | some s => simpa using h view s hshown

theorem Countable.denotes_viewPayload (h : r.Countable) (view : ViewKind) :
    (r.derivedView view).Denotes (r.viewPayload view).sorted := by
  obtain ⟨entries, hwrites, hrequired, -⟩ := Json.exists_writesRecord
    [("fields", .array ((r.derivedView view).paths.zipIdx.map fun t =>
      FieldPlan.payload t.1 t.2))] [] (by simp)
  refine ⟨entries, hwrites, ?_⟩
  constructor
  rw [hrequired _ (List.mem_singleton_self _), fields_derivedView]
  refine .entry (Json.listOf_map fun t ht => FieldPlan.denotes_payload ?_)
  calc t.2 < (r.derivedView view).paths.length := List.snd_lt_of_mem_zipIdx ht
    _ ≤ UInt64.size := h.length_paths view

theorem viewsPayload_eq (r : Resource) : r.viewsPayload = .object ([] ++ Json.membersOf
    (ViewKind.all.map fun view => (view.name,
      if view ∈ r.expectedViews then some (r.viewPayload view) else none))) := by
  have hmembers (views : List ViewKind) (p : ViewKind → Bool) :
      (views.filter p).map (fun view => (view.name, r.viewPayload view)) =
        Json.membersOf (views.map fun view =>
          (view.name, if p view = true then some (r.viewPayload view) else none)) := by
    induction views with
    | nil => rfl
    | cons view rest ih => cases h : p view <;> simpa [h, Json.membersOf, Json.memberOf?] using ih
  simp only [mem_expectedViews_iff]
  exact congrArg Json.object (hmembers _ _)

theorem Countable.denotes_viewsPayload (h : r.Countable) :
    r.derivedPlan.views.Denotes r.viewsPayload.sorted := by
  have hview (view : ViewKind) : Json.Optionally ViewPlan.Denotes
      ((if view ∈ r.expectedViews then some (r.viewPayload view) else none).map Json.sorted)
      (r.derivedView? view) := by
    rw [derivedView?]
    split
    · exact .entry (h.denotes_viewPayload view)
    · exact .absent
  obtain ⟨entries, hwrites, -, hoptional⟩ := Json.exists_writesRecord [] (ViewKind.all.map
    fun view => (view.name, if view ∈ r.expectedViews then some (r.viewPayload view) else none))
    (by simp [ViewKind.all, ViewKind.name])
  have hentry (view : ViewKind) : Json.Optionally ViewPlan.Denotes
      (entries.get? view.name) (r.derivedView? view) := by
    rw [hoptional _ (List.mem_map.mpr ⟨view, ViewKind.mem_all view, rfl⟩)]
    exact hview view
  rw [viewsPayload_eq]
  exact ⟨entries, hwrites, hentry .list, hentry .detail, hentry .create, hentry .edit⟩

theorem Countable.denotes_payload (h : r.Countable) :
    r.derivedPlan.Denotes r.payload.sorted := by
  obtain ⟨entries, hwrites, hrequired, -⟩ := Json.exists_writesRecord
    [("name", .string r.name), ("views", r.viewsPayload)] [] (by simp)
  simp only [List.forall_mem_cons] at hrequired
  refine ⟨entries, hwrites, ?name, ?views⟩
  case name =>
    rw [hrequired.1]
    exact .entry rfl
  case views =>
    rw [hrequired.2.1]
    exact .entry h.denotes_viewsPayload

end Resource

namespace Plan

variable {model : ApiModel}

/-- The payload of an API: names, and for each expected view the properties with their places. -/
def payload (model : ApiModel) : Json :=
  .sorted (.object [("resources", .array (model.resources.map Resource.payload))])

/-- The payload writes the derived plan. -/
theorem denotes_payload (h : ∀ r ∈ model.resources, r.Countable) :
    Denotes (payload model) (derived model) := by
  obtain ⟨entries, hwrites, hrequired, -⟩ := Json.exists_writesRecord
    [("resources", .array (model.resources.map Resource.payload))] [] (by simp)
  refine ⟨entries, hwrites, ?_⟩
  constructor
  rw [hrequired _ (List.mem_singleton_self _)]
  exact .entry (Json.listOf_map fun r hr => (h r hr).denotes_payload)

/-- Validating the payload answers what checking the derived plan does. -/
theorem ofJson_payload (h : ∀ r ∈ model.resources, r.Countable) :
    ofJson (payload model) = (derived model).checked :=
  ofJson_eq_of_denotes (Json.isTree_sorted _) (denotes_payload h)

end Plan

end Payload

end ApiScreens
