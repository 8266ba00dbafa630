import ApiScreens.Api.Declaration
import ApiScreens.Proofs.Json.Tree

/-!
# Declarations of a document

A document lists what its paths declare by path and then by method, nothing twice. A declaration
amounts to an operation exactly if its method fits the parameters of its path, a success response
has a schema, and what must be sent has one too; the operation then says just that.
-/

namespace ApiScreens

namespace Method

theorem mem_all (m : Method) : m ∈ all := by
  cases m <;> decide

theorem all_pairwise_rank : all.Pairwise fun m n => m.rank < n.rank := by
  decide

theorem rank_injective {m n : Method} (h : m.rank = n.rank) : m = n := by
  revert h
  cases m <;> cases n <;> decide

end Method

namespace OperationKind

theorem rank_injective {k l : OperationKind} (h : k.rank = l.rank) : k = l := by
  revert h
  cases k <;> cases l <;> decide

/-- The kinds that name an item are those of paths with a parameter. -/
theorem infer?_eq_some {m : Method} {parameters : Nat} {kind : OperationKind}
    (h : infer? m parameters = some kind) :
    parameters = if kind.hasIdentifier then 1 else 0 := by
  unfold infer? at h
  split at h
  case h_7 => contradiction
  all_goals
    obtain rfl := Option.some.inj h
    rfl

theorem hasIdentifier_iff {kind : OperationKind} :
    kind.hasIdentifier = true ↔ kind = detail ∨ kind = update ∨ kind = delete := by
  cases kind <;> decide

theorem needsRequest_iff {kind : OperationKind} :
    kind.needsRequest = true ↔ kind = create ∨ kind = update := by
  cases kind <;> decide

end OperationKind

theorem Subset.paths_ascending {root : Json} (h : root.IsTree) :
    Keyed.Ascending (Subset.paths root) :=
  (h.membersAt "paths").1

namespace Declaration

/-- The order in which a document's declarations are listed. -/
def Precedes (d e : Declaration) : Prop :=
  d.path < e.path ∨ d.path = e.path ∧ d.method.rank < e.method.rank

theorem Precedes.ne {d e : Declaration} (h : d.Precedes e) :
    ¬ (d.path = e.path ∧ d.method = e.method) := by
  rintro ⟨hpath, hmethod⟩
  rcases h with h | ⟨_, h⟩
  · exact String.lt_irrefl _ (hpath ▸ h)
  · exact Nat.lt_irrefl _ (hmethod ▸ h)

section All

variable {root : Json} {d : Declaration}

theorem mem_ofPath {path : String} {item : Json} :
    d ∈ ofPath path item ↔ ∃ method node, item.get? method.key = some node ∧
      d = ofNode path method node := by
  simp only [ofPath, List.mem_filterMap, Method.mem_all, true_and, Option.map_eq_some_iff]
  constructor
  · rintro ⟨method, node, hnode, rfl⟩
    exact ⟨method, node, hnode, rfl⟩
  · rintro ⟨method, node, hnode, rfl⟩
    exact ⟨method, node, hnode, rfl⟩

theorem mem_all : d ∈ all root ↔ ∃ path item method node, (path, item) ∈ Subset.paths root ∧
    item.get? method.key = some node ∧ d = ofNode path method node := by
  simp only [all, List.mem_flatMap, mem_ofPath, Prod.exists]
  constructor
  · rintro ⟨path, item, hitem, method, node, hnode, rfl⟩
    exact ⟨path, item, method, node, hitem, hnode, rfl⟩
  · rintro ⟨path, item, method, node, hitem, hnode, rfl⟩
    exact ⟨path, item, hitem, method, node, hnode, rfl⟩

theorem ofPath_precedes (path : String) (item : Json) : (ofPath path item).Pairwise Precedes := by
  apply List.pairwise_filterMap.mpr
  apply Method.all_pairwise_rank.imp
  intro m n hlt d hd e he
  obtain ⟨_, _, rfl⟩ := Option.map_eq_some_iff.mp hd
  obtain ⟨_, _, rfl⟩ := Option.map_eq_some_iff.mp he
  exact Or.inr ⟨rfl, hlt⟩

/-- The declarations of a document are listed by path and then by method. -/
theorem all_precedes (h : root.IsTree) : (all root).Pairwise Precedes := by
  unfold all
  have hpaths := Subset.paths_ascending h
  generalize Subset.paths root = paths at hpaths
  apply List.pairwise_flatMap.mpr
  constructor
  · exact fun m _ => ofPath_precedes m.1 m.2
  · apply hpaths.imp
    intro m n hlt d hd e he
    obtain ⟨_, _, _, rfl⟩ := mem_ofPath.mp hd
    obtain ⟨_, _, _, rfl⟩ := mem_ofPath.mp he
    exact Or.inl hlt

end All

section Operations

variable {d : Declaration} {op : Operation}

/-- What a declaration amounts to. -/
theorem operation_eq_ok : d.operation = .ok op ↔ ∃ kind response,
    OperationKind.infer? d.method d.parameters.length = some kind ∧
    d.responseSchema? = some response ∧
    (kind.needsRequest = true → d.requestSchema?.isSome = true) ∧
    op = ⟨d.id, d.method, kind, d.path, if kind.hasIdentifier then d.parameters.head? else none,
      d.requestSchema?, response⟩ := by
  unfold operation
  cases OperationKind.infer? d.method d.parameters.length with
  | none => simp
  | some kind =>
      cases d.responseSchema? with
      | none => simp
      | some response =>
          have hsame {a b : Operation} : (Except.ok a : Except Diagnostic Operation) = .ok b ↔
              b = a := by
            rw [Except.ok.injEq, eq_comm]
          cases d.requestSchema? with
          | none => cases hneeds : kind.needsRequest <;> simp [hneeds, hsame]
          | some request => simp [hsame]

theorem path_of_operation (h : d.operation = .ok op) : op.path = d.path := by
  obtain ⟨_, _, _, _, _, rfl⟩ := operation_eq_ok.mp h
  rfl

theorem method_of_operation (h : d.operation = .ok op) : op.method = d.method := by
  obtain ⟨_, _, _, _, _, rfl⟩ := operation_eq_ok.mp h
  rfl

end Operations

end Declaration

/-- What operations say about the path that they work on. -/
structure Operation.Classified (op : Operation) : Prop where
  kind : OperationKind.infer? op.method (PathTemplate.parameters op.path).length = some op.kind
  identifier : (∃ name, op.identifier = some name) ↔
    op.kind = .detail ∨ op.kind = .update ∨ op.kind = .delete
  parameter : ∀ name, op.identifier = some name → PathTemplate.parameters op.path = [name]
  request : op.kind = .create ∨ op.kind = .update → ∃ schema, op.request = some schema

namespace Declaration

/-- The operations that declarations amount to are classified by their method and path. -/
theorem classified_of_operation {d : Declaration} {op : Operation} (h : d.operation = .ok op) :
    op.Classified := by
  obtain ⟨kind, response, hkind, _, hrequest, rfl⟩ := operation_eq_ok.mp h
  have hcount := OperationKind.infer?_eq_some hkind
  by_cases hidentifier : kind.hasIdentifier = true
  · obtain ⟨name, hname⟩ : ∃ name, d.parameters = [name] := by
      rw [if_pos hidentifier] at hcount
      exact List.length_eq_one_iff.mp hcount
    constructor
    case kind => exact hkind
    case identifier =>
      rw [← OperationKind.hasIdentifier_iff]
      simp [hidentifier, hname]
    case parameter =>
      intro other hother
      have hsame : name = other := by simpa [hidentifier, hname] using hother
      exact hsame ▸ hname
    case request =>
      intro hneeds
      exact Option.isSome_iff_exists.mp (hrequest (OperationKind.needsRequest_iff.mpr hneeds))
  · constructor
    case kind => exact hkind
    case identifier =>
      rw [← OperationKind.hasIdentifier_iff]
      simp [hidentifier]
    case parameter =>
      intro other hother
      simp [hidentifier] at hother
    case request =>
      intro hneeds
      exact Option.isSome_iff_exists.mp (hrequest (OperationKind.needsRequest_iff.mpr hneeds))

end Declaration

end ApiScreens
