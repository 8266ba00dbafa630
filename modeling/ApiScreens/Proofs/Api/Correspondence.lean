import ApiScreens.Proofs.Api.Partition
import ApiScreens.Proofs.Document.CanonicalParts

/-!
# Models of the same document

Documents that are the same up to what canonical forms forget declare the same operations, and
their models have the same resources in the same order. Operations in the same place differ at most
in their schemas, which are the same documents again.
-/

namespace ApiScreens

open Canonical (Same SameSilent)

section Paths

variable {v w : Json}

/-- The same documents have the same value at the end of a chain of keys that carry meaning, or
none. -/
theorem Subset.rel_getPath? {keys : List String} (hkeys : ∀ key ∈ keys, key ∉ Canonical.silentKeys)
    (h : Same v w) : Option.Rel Same (getPath? v keys) (getPath? w keys) := by
  induction keys generalizing v w with
  | nil => exact .some h
  | cons key rest ih =>
      obtain ⟨hkey, hrest⟩ := List.forall_mem_cons.mp hkeys
      unfold getPath? at ih ⊢
      rw [List.foldlM_cons, List.foldlM_cons]
      exact rel_bind (h.rel_get? hkey) fun _ _ hvalue => ih hrest hvalue

end Paths

/-- Two declarations of the same document, up to what canonical forms forget. -/
structure Declaration.Corresponds (d e : Declaration) : Prop where
  path : d.path = e.path
  method : d.method = e.method
  operationId : d.operationId = e.operationId
  tags : d.tags.Perm e.tags
  node : Same d.node e.node

namespace Declaration

section All

variable {root root' : Json}

theorem corresponds_ofNode {node node' : Json} (h : Same node node') (path : String)
    (method : Method) : (ofNode path method node).Corresponds (ofNode path method node') where
  path := rfl
  method := rfl
  operationId := by
    have htext := @Canonical.string?_get?_congr _ _ "operationId" (by decide) h.canonicalize_eq
    simp only [ofNode, htext]
  tags := @Canonical.textsAt_perm _ _ "tags" (by decide) h.canonicalize_eq
  node := h

theorem key_not_silent (method : Method) : method.key ∉ Canonical.silentKeys := by
  cases method <;> decide

theorem corresponds_ofPath {item item' : Json} (h : Same item item') (path : String) :
    List.Forall₂ Corresponds (ofPath path item) (ofPath path item') := by
  apply forall₂_filterMap
  intro method _
  have hnodes := h.rel_get? (key_not_silent method)
  simp only [Option.map_eq_bind]
  exact rel_bind hnodes fun _ _ hnode => .some (corresponds_ofNode hnode path method)

/-- The same documents have the same declarations if they agree on the paths that canonical forms
leave out. -/
theorem corresponds_all (h : Same root root')
    (hsilent : SameSilent (Subset.paths root) (Subset.paths root')) :
    List.Forall₂ Corresponds (all root) (all root') := by
  have hpaths : List.Forall₂ (fun m n => m.1 = n.1 ∧ Same m.2 n.2 ∧ m ∈ Subset.paths root ∧
      n ∈ Subset.paths root') (Subset.paths root) (Subset.paths root') :=
    h.membersAt (by decide) hsilent
  refine List.rel_flatMap hpaths ?_
  rintro ⟨path, item⟩ ⟨path', item'⟩ ⟨hpath, hitem, _, _⟩
  obtain rfl : path = path' := hpath
  exact corresponds_ofPath hitem path

end All

section Schemas

variable {d e : Declaration} {v w : Json}

theorem rel_contentSchema? (h : Same v w) :
    Option.Rel Same (contentSchema? v) (contentSchema? w) := by
  have hkeys : ∀ key ∈ ["content", jsonMediaType, "schema"], key ∉ Canonical.silentKeys := by decide
  have hschemas := Subset.rel_getPath? hkeys h
  unfold contentSchema?
  generalize Subset.getPath? v _ = a at hschemas
  generalize Subset.getPath? w _ = b at hschemas
  cases hschemas with
  | none => exact .none
  | @some s t hschema =>
      have hobject : s.isObject = t.isObject := by
        rw [← Canonical.isObject_canonicalize, hschema.canonicalize_eq,
          Canonical.isObject_canonicalize]
      rw [Option.filter_some, Option.filter_some, hobject]
      split
      · exact .some hschema
      · exact .none

theorem Corresponds.rel_requestSchema? (h : d.Corresponds e) :
    Option.Rel Same d.requestSchema? e.requestSchema? :=
  rel_bind (h.node.rel_get? (by decide)) fun _ _ => rel_contentSchema?

theorem Corresponds.rel_responseSchema? (h : d.Corresponds e) :
    Option.Rel Same d.responseSchema? e.responseSchema? := by
  have hcodes : ∀ code ∈ successCodes, code ∉ Canonical.silentKeys := by decide
  refine rel_bind (h.node.rel_get? (by decide)) fun v w hresponses => ?_
  apply rel_findSome?
  intro code hcode
  exact rel_bind (hresponses.rel_get? (hcodes code hcode)) fun _ _ => rel_contentSchema?

end Schemas

end Declaration

/-- Two operations that are the same but for their schemas, which are related. -/
structure Operation.Corresponds (R : Json → Json → Prop) (a b : Operation) : Prop where
  id : a.id = b.id
  method : a.method = b.method
  kind : a.kind = b.kind
  path : a.path = b.path
  identifier : a.identifier = b.identifier
  request : Option.Rel R a.request b.request
  response : R a.response b.response

/-- Two resources that are the same but for the schemas of their operations, which are related. -/
structure Resource.Corresponds (R : Json → Json → Prop) (r s : Resource) : Prop where
  name : r.name = s.name
  key : r.key = s.key
  operations : List.Forall₂ (Operation.Corresponds R) r.operations s.operations

/-- The schemas of two declarations are related. -/
structure Declaration.SchemasRelate (R : Json → Json → Prop) (d e : Declaration) : Prop where
  response : ∀ s t, d.responseSchema? = some s → e.responseSchema? = some t → R s t
  request : ∀ s t, d.requestSchema? = some s → e.requestSchema? = some t → R s t

theorem Declaration.SchemasRelate.and {R S : Json → Json → Prop} {d e : Declaration}
    (hR : d.SchemasRelate R e) (hS : d.SchemasRelate S e) :
    d.SchemasRelate (fun s t => R s t ∧ S s t) e where
  response s t hs ht := ⟨hR.response s t hs ht, hS.response s t hs ht⟩
  request s t hs ht := ⟨hR.request s t hs ht, hS.request s t hs ht⟩

theorem Declaration.SchemasRelate.imp {R S : Json → Json → Prop} {d e : Declaration}
    (hR : d.SchemasRelate R e) (himp : ∀ s t, R s t → S s t) : d.SchemasRelate S e where
  response s t hs ht := himp s t (hR.response s t hs ht)
  request s t hs ht := himp s t (hR.request s t hs ht)

/-- The schemas of corresponding declarations are the same documents. -/
theorem Declaration.Corresponds.schemasRelate {d e : Declaration} (h : d.Corresponds e) :
    d.SchemasRelate Same e where
  response s t hs ht := by
    have hrel := h.rel_responseSchema?
    rwa [hs, ht, Option.rel_some_some] at hrel
  request s t hs ht := by
    have hrel := h.rel_requestSchema?
    rwa [hs, ht, Option.rel_some_some] at hrel

/-- The schemas that two documents have for the same method of the same path are related. -/
def Declaration.AllSchemasRelate (R : Json → Json → Prop) (root root' : Json) : Prop :=
  ∀ d ∈ all root, ∀ e ∈ all root', d.path = e.path → d.method = e.method → d.SchemasRelate R e

section Grouping

theorem Grouping.choose_eq_of_lengths {tags tags' : List (List String)}
    (h : tags.map List.length = tags'.map List.length) : choose tags = choose tags' := by
  have hlengths (tags : List (List String)) : choose tags =
      if !(tags.map List.length).isEmpty && (tags.map List.length).all (· == 1) then tag
      else path := by
    simp [choose, List.all_map, Function.comp_def]
  rw [hlengths, hlengths, h]

theorem Grouping.length_eq_one_of_choose {tags : List (List String)} (h : choose tags = tag) :
    ∀ l ∈ tags, l.length = 1 := by
  unfold choose at h
  split at h
  · rename_i hall
    intro l hl
    exact beq_iff_eq.mp (List.all_eq_true.mp (Bool.and_eq_true_iff.mp hall).2 l hl)
  · contradiction

/-- Declarations of the same document belong to the same resource. -/
theorem Declaration.Corresponds.resource_eq {d e : Declaration} (h : d.Corresponds e)
    (grouping : Grouping) (prefixes : List String)
    (hone : grouping = .tag → d.tags.length = 1) :
    grouping.resource prefixes d.tags d.path = grouping.resource prefixes e.tags e.path := by
  cases grouping with
  | tag =>
      obtain ⟨tag, htag⟩ := List.length_eq_one_iff.mp (hone rfl)
      have htags : e.tags = [tag] := List.perm_singleton.mp (htag ▸ h.tags).symm
      rw [htag, htags]
      rfl
  | path =>
      rw [h.path]
      rfl

end Grouping

namespace ApiBuild

variable {R : Json → Json → Prop}

section Steps

variable {d e : Declaration} {op op' : Operation} {resources resources' : List Resource}

theorem corresponds_operation (h : d.Corresponds e) (hschemas : d.SchemasRelate R e)
    (hop : d.operation = .ok op) (hop' : e.operation = .ok op') : op.Corresponds R op' := by
  obtain ⟨kind, response, hkind, hresponse, _, rfl⟩ := Declaration.operation_eq_ok.mp hop
  obtain ⟨kind', response', hkind', hresponse', _, rfl⟩ := Declaration.operation_eq_ok.mp hop'
  have hparameters : d.parameters = e.parameters := by
    rw [Declaration.parameters, Declaration.parameters, h.path]
  obtain rfl : kind = kind' := by
    rw [h.method, hparameters, hkind'] at hkind
    exact (Option.some.inj hkind).symm
  constructor
  case id => simp only [Declaration.id, h.operationId, h.method, h.path]
  case method => exact h.method
  case kind => rfl
  case path => exact h.path
  case identifier => simp only [hparameters]
  case request =>
    exact rel_imp h.rel_requestSchema? fun s t hs ht _ => hschemas.request s t hs ht
  case response => exact hschemas.response response response' hresponse hresponse'

theorem corresponds_addOperation
    (hresources : List.Forall₂ (Resource.Corresponds R) resources resources')
    (hop : op.Corresponds R op') (key name : String) :
    List.Forall₂ (Resource.Corresponds R) (addOperation key name op resources)
      (addOperation key name op' resources') := by
  have hnew : Resource.Corresponds R ⟨name, key, [op]⟩ ⟨name, key, [op']⟩ :=
    ⟨rfl, rfl, .cons hop .nil⟩
  induction hresources with
  | nil => exact .cons hnew .nil
  | @cons r s rest rest' hr hrest ih =>
      unfold addOperation
      rw [hr.key]
      split
      · exact .cons hnew (.cons hr hrest)
      · split
        · refine .cons ⟨hr.name, rfl, ?_⟩ hrest
          exact List.rel_append hr.operations (.cons hop .nil)
        · exact .cons hr ih

theorem corresponds_sortOperations {r s : Resource} (h : r.Corresponds R s) :
    (sortOperations r).Corresponds R (sortOperations s) := by
  refine ⟨h.name, h.key, forall₂_mergeSort h.operations ?_⟩
  intro a a' b b' hb hb'
  rw [operationOrder, operationOrder, hb.kind, hb.path, hb.method, hb'.kind, hb'.path, hb'.method]

end Steps

section Models

variable {root root' : Json} {prefixes : List String} {b b' : ApiBuild}

/-- The models of the same documents have the same resources, but for their schemas. -/
theorem corresponds_of_ofDocument (hroot : Same root root')
    (hsilent : SameSilent (Subset.paths root) (Subset.paths root'))
    (hschemas : ∀ d ∈ Declaration.all root, ∀ e ∈ Declaration.all root', d.Corresponds e →
      d.SchemasRelate R e) (hb : ofDocument root prefixes = .ok b)
    (hb' : ofDocument root' prefixes = .ok b') :
    List.Forall₂ (Resource.Corresponds R) b.model.resources b'.model.resources := by
  obtain ⟨hgrouping, resources, hrun, hmodel⟩ := ofDocument_eq_ok hb
  obtain ⟨hgrouping', resources', hrun', hmodel'⟩ := ofDocument_eq_ok hb'
  have hall := Declaration.corresponds_all hroot hsilent
  have hsame : b.grouping = b'.grouping := by
    rw [hgrouping, hgrouping']
    apply Grouping.choose_eq_of_lengths
    rw [List.map_map, List.map_map, ← List.forall₂_eq_eq_eq, List.forall₂_map_left_iff,
      List.forall₂_map_right_iff]
    exact hall.imp fun _ _ h => h.tags.length_eq
  have hone (d : Declaration) (hd : d ∈ Declaration.all root) (htag : b.grouping = .tag) :
      d.tags.length = 1 :=
    Grouping.length_eq_one_of_choose (hgrouping ▸ htag) _ (List.mem_map_of_mem hd)
  rw [← hsame] at hrun'
  have hresources : List.Forall₂ (Resource.Corresponds R) resources resources' := by
    refine foldlM_related (forall₂_with_mem hall) .nil hrun hrun' ?_
    rintro d e rs rs' out out' ⟨hde, hd, he⟩ hrs hstep hstep'
    obtain ⟨op, hop, rfl⟩ := addDeclaration_eq_ok.mp hstep
    obtain ⟨op', hop', rfl⟩ := addDeclaration_eq_ok.mp hstep'
    have hresource := hde.resource_eq b.grouping prefixes (hone d hd)
    rw [Declaration.resourceKey, Declaration.resourceName, hresource]
    exact corresponds_addOperation hrs
      (corresponds_operation hde (hschemas d hd e he hde) hop hop') _ _
  rw [hmodel, hmodel']
  apply List.rel_map (R := Resource.Corresponds R)
  · exact fun _ _ => corresponds_sortOperations
  · exact hresources

end Models

end ApiBuild

end ApiScreens
