import ApiScreens.Api.Model
import ApiScreens.Proofs.Json.CompactText
import ApiScreens.Proofs.Json.WrittenRecord

/-!
# Written models of APIs

The JSON form of a model is made of records, objects whose keys are different, so that sorting
their members loses nothing. A model whose schemas are trees is told by the canonical text of its
JSON form.
-/

namespace ApiScreens

attribute [ext] Operation Resource ApiInfo ApiModel

namespace Json

/-- The value is an object whose keys are different. -/
def IsRecord (v : Json) : Prop :=
  ∃ members : Members, v = .object members ∧ (members.map Prod.fst).Nodup

section Records

variable {v w : Json}

/-- Records with the same sorted form have the same sorted values under each key. -/
theorem IsRecord.map_sorted_get?_eq (hv : v.IsRecord) (hw : w.IsRecord) (h : v.sorted = w.sorted)
    (key : String) : (v.get? key).map sorted = (w.get? key).map sorted := by
  obtain ⟨members, rfl, hmembers⟩ := hv
  obtain ⟨members', rfl, hmembers'⟩ := hw
  rw [← get?_sorted hmembers, ← get?_sorted hmembers', h]

theorem IsRecord.sorted_eq {a b : Json} (hv : v.IsRecord) (hw : w.IsRecord)
    (h : v.sorted = w.sorted) (key : String) (ha : v.get? key = some a)
    (hb : w.get? key = some b) : a.sorted = b.sorted := by
  have hvalues := hv.map_sorted_get?_eq hw h key
  rw [ha, hb] at hvalues
  exact Option.some.inj hvalues

theorem IsRecord.text_eq {s t : String} (hv : v.IsRecord) (hw : w.IsRecord)
    (h : v.sorted = w.sorted) (key : String) (hs : v.get? key = some (.string s))
    (ht : w.get? key = some (.string t)) : s = t :=
  Json.string.inj (hv.sorted_eq hw h key hs ht)

/-- Lists whose members are told by their sorted forms are told by that of the array of them. -/
theorem eq_of_sorted_array {α : Type} {write : α → Json} {l l' : List α}
    (hinj : ∀ a ∈ l, ∀ b ∈ l', (write a).sorted = (write b).sorted → a = b)
    (h : (array (l.map write)).sorted = (array (l'.map write)).sorted) : l = l' := by
  simp only [sorted, sortedItems_eq_map, array.injEq, List.map_map] at h
  rw [← List.forall₂_eq_eq_eq, List.forall₂_map_left_iff, List.forall₂_map_right_iff] at h
  rw [← List.forall₂_eq_eq_eq]
  apply (forall₂_with_mem h).imp
  rintro a b ⟨hsorted, ha, hb⟩
  exact hinj a ha b hb hsorted

end Records

end Json

theorem Method.name_injective : Function.Injective Method.name := by
  intro a b h
  cases a <;> cases b <;> first | rfl | exact absurd h (by decide)

theorem OperationKind.name_injective : Function.Injective OperationKind.name := by
  intro a b h
  cases a <;> cases b <;> first | rfl | exact absurd h (by decide)

namespace Operation

/-- The schemas of the operation are trees. -/
def HasTrees (op : Operation) : Prop := op.response.IsTree ∧ ∀ s ∈ op.request, s.IsTree

/-- The value is a record with what is known of an operation under its keys. -/
structure WrittenIn (op : Operation) (v : Json) : Prop where
  isRecord : v.IsRecord
  id : v.get? "id" = some (.string op.id)
  method : v.get? "method" = some (.string op.method.name)
  kind : v.get? "kind" = some (.string op.kind.name)
  path : v.get? "path" = some (.string op.path)
  identifier : v.get? "identifierParam" = op.identifier.map .string
  request : v.get? "requestSchema" = op.request
  response : v.get? "responseSchema" = some op.response

theorem writtenIn_toJson (op : Operation) : op.WrittenIn op.toJson := by
  obtain ⟨id, method, kind, path, identifier, request, response⟩ := op
  constructor
  case isRecord =>
    refine ⟨_, rfl, ?_⟩
    cases identifier <;> cases request <;> simp [Json.memberOf?]
  all_goals cases identifier <;> cases request <;> rfl

theorem eq_of_sorted {a b : Operation} (ha : a.HasTrees) (hb : b.HasTrees)
    (h : a.toJson.sorted = b.toJson.sorted) : a = b := by
  have hv := a.writtenIn_toJson
  have hw := b.writtenIn_toJson
  have hvalues := hv.isRecord.map_sorted_get?_eq hw.isRecord h
  apply Operation.ext
  case id => exact hv.isRecord.text_eq hw.isRecord h "id" hv.id hw.id
  case method =>
    apply Method.name_injective
    exact hv.isRecord.text_eq hw.isRecord h "method" hv.method hw.method
  case kind =>
    apply OperationKind.name_injective
    exact hv.isRecord.text_eq hw.isRecord h "kind" hv.kind hw.kind
  case path => exact hv.isRecord.text_eq hw.isRecord h "path" hv.path hw.path
  case identifier =>
    have hvalue := hvalues "identifierParam"
    rw [hv.identifier, hw.identifier, Option.map_map, Option.map_map] at hvalue
    exact Option.map_injective (fun _ _ => Json.string.inj) hvalue
  case request =>
    have hvalue := hvalues "requestSchema"
    rwa [hv.request, hw.request, Option.map_congr fun s hs => (ha.2 s hs).sorted_eq,
      Option.map_congr (x := b.request) fun s hs => (hb.2 s hs).sorted_eq, Option.map_id',
      Option.map_id'] at hvalue
  case response =>
    have hvalue := hv.isRecord.sorted_eq hw.isRecord h "responseSchema" hv.response hw.response
    rwa [ha.1.sorted_eq, hb.1.sorted_eq] at hvalue

end Operation

namespace Resource

theorem isRecord_toJson (r : Resource) : r.toJson.IsRecord := ⟨_, rfl, by simp⟩

theorem eq_of_sorted {a b : Resource} (ha : ∀ op ∈ a.operations, op.HasTrees)
    (hb : ∀ op ∈ b.operations, op.HasTrees) (h : a.toJson.sorted = b.toJson.sorted) : a = b := by
  apply Resource.ext
  · exact a.isRecord_toJson.text_eq b.isRecord_toJson h "name" rfl rfl
  · exact a.isRecord_toJson.text_eq b.isRecord_toJson h "key" rfl rfl
  · have hoperations : (Json.array (a.operations.map Operation.toJson)).sorted = _ :=
      a.isRecord_toJson.sorted_eq b.isRecord_toJson h "operations" rfl rfl
    apply Json.eq_of_sorted_array _ hoperations
    intro op hop op' hop'
    exact Operation.eq_of_sorted (ha op hop) (hb op' hop')

end Resource

theorem ApiInfo.isRecord_toJson (i : ApiInfo) : i.toJson.IsRecord := ⟨_, rfl, by simp⟩

theorem ApiInfo.eq_of_sorted {a b : ApiInfo} (h : a.toJson.sorted = b.toJson.sorted) : a = b := by
  apply ApiInfo.ext
  · exact a.isRecord_toJson.text_eq b.isRecord_toJson h "title" rfl rfl
  · exact a.isRecord_toJson.text_eq b.isRecord_toJson h "version" rfl rfl

namespace ApiModel

/-- The schemas of all operations of the model are trees. -/
def HasTrees (m : ApiModel) : Prop := ∀ r ∈ m.resources, ∀ op ∈ r.operations, op.HasTrees

theorem isRecord_toJson (m : ApiModel) : m.toJson.IsRecord := ⟨_, rfl, by simp⟩

theorem eq_of_sorted {a b : ApiModel} (ha : a.HasTrees) (hb : b.HasTrees)
    (h : a.toJson.sorted = b.toJson.sorted) : a = b := by
  apply ApiModel.ext
  · apply ApiInfo.eq_of_sorted
    exact a.isRecord_toJson.sorted_eq b.isRecord_toJson h "api" rfl rfl
  · have hresources : (Json.array (a.resources.map Resource.toJson)).sorted = _ :=
      a.isRecord_toJson.sorted_eq b.isRecord_toJson h "resources" rfl rfl
    apply Json.eq_of_sorted_array _ hresources
    intro r hr r' hr'
    exact Resource.eq_of_sorted (ha r hr) (hb r' hr')

/-- The canonical text of its JSON form tells a model whose schemas are trees. -/
theorem eq_of_canonicalText {a b : ApiModel} (ha : a.HasTrees) (hb : b.HasTrees)
    (h : a.toJson.canonicalText = b.toJson.canonicalText) : a = b :=
  eq_of_sorted ha hb (Json.compact_inj h)

end ApiModel

end ApiScreens
