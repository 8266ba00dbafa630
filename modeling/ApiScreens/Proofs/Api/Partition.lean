import ApiScreens.Api.Build
import ApiScreens.Proofs.Api.Declarations
import ApiScreens.Proofs.Outcome
import ApiScreens.Proofs.Pointwise
import ApiScreens.Proofs.Sorting

/-!
# Models partition the operations of a document

Every declaration of a document becomes one operation of one resource, the one whose key the
grouping gives it. Keys ascend and no resource is empty, a resource is named by its first
declaration, and its operations ascend by kind, path and method. Building fails only for a document
without declarations and at the first declaration that amounts to no operation.
-/

namespace ApiScreens

open Std

/-- The order of the operations of a resource. -/
def Operation.Precedes (a b : Operation) : Prop :=
  a.kind.rank < b.kind.rank ∨ a.kind = b.kind ∧
    (a.path < b.path ∨ a.path = b.path ∧ a.method.rank < b.method.rank)

/-- The operations that declarations amount to, one by one. -/
def Declaration.Amount : List Declaration → List Operation → Prop :=
  List.Forall₂ fun d op => d.operation = .ok op

namespace Declaration

variable (grouping : Grouping) (prefixes : List String)

/-- The key of the resource that a declaration belongs to. -/
def resourceKey (d : Declaration) : String := (grouping.resource prefixes d.tags d.path).1

/-- The name that a declaration gives its resource. -/
def resourceName (d : Declaration) : String := (grouping.resource prefixes d.tags d.path).2

/-- The declarations that belong to the resource with a key. -/
def belonging (key : String) (declarations : List Declaration) : List Declaration :=
  declarations.filter fun d => d.resourceKey grouping prefixes == key

variable {grouping prefixes} {key : String} {declarations : List Declaration} {d : Declaration}

theorem belonging_append_of_eq (h : d.resourceKey grouping prefixes = key) :
    belonging grouping prefixes key (declarations ++ [d]) =
      belonging grouping prefixes key declarations ++ [d] := by
  simp [belonging, List.filter_append, h]

theorem belonging_append_of_ne (h : d.resourceKey grouping prefixes ≠ key) :
    belonging grouping prefixes key (declarations ++ [d]) =
      belonging grouping prefixes key declarations := by
  simp [belonging, List.filter_append, h]

theorem Amount.concat {ops : List Operation} {op : Operation} (h : Amount declarations ops)
    (hop : d.operation = .ok op) : Amount (declarations ++ [d]) (ops ++ [op]) :=
  List.rel_append h (List.Forall₂.cons hop List.Forall₂.nil)

end Declaration

namespace ApiBuild

open Declaration (Amount belonging)

section AddOperation

variable {key name : String} {op : Operation} {resources : List Resource} {r : Resource}

/-- What adding an operation leaves, changes and makes. -/
theorem mem_addOperation (h : resources.Pairwise fun r s => r.key < s.key) :
    r ∈ addOperation key name op resources ↔ (r ∈ resources ∧ r.key ≠ key) ∨
      (∃ old ∈ resources, old.key = key ∧
        r = { old with operations := old.operations ++ [op] }) ∨
      (∀ old ∈ resources, old.key ≠ key) ∧ r = ⟨name, key, [op]⟩ := by
  induction resources with
  | nil => simp [addOperation]
  | cons first rest ih =>
      obtain ⟨hfirst, hrest⟩ := List.pairwise_cons.mp h
      unfold addOperation
      split
      · rename_i hlt
        have hne : ∀ s ∈ first :: rest, s.key ≠ key := by
          rintro s hs rfl
          rcases List.mem_cons.mp hs with rfl | hs
          · exact String.lt_irrefl _ hlt
          · exact String.lt_irrefl _ (String.lt_trans hlt (hfirst s hs))
        rw [List.mem_cons]
        constructor
        · rintro (rfl | hr)
          · exact Or.inr (Or.inr ⟨hne, rfl⟩)
          · exact Or.inl ⟨hr, hne r hr⟩
        · rintro (⟨hr, _⟩ | ⟨old, hold, hkey, _⟩ | ⟨_, rfl⟩)
          · exact Or.inr hr
          · exact absurd hkey (hne old hold)
          · exact Or.inl rfl
      · split
        · rename_i heq
          subst heq
          have hne : ∀ s ∈ rest, s.key ≠ first.key := by
            intro s hs hkey
            exact String.lt_irrefl _ (hkey ▸ hfirst s hs)
          rw [List.mem_cons]
          constructor
          · rintro (rfl | hr)
            · exact Or.inr (Or.inl ⟨first, List.mem_cons_self, rfl, rfl⟩)
            · exact Or.inl ⟨List.mem_cons_of_mem _ hr, hne r hr⟩
          · rintro (⟨hr, hkey⟩ | ⟨old, hold, hkey, rfl⟩ | ⟨hnone, _⟩)
            · rcases List.mem_cons.mp hr with rfl | hr
              · exact absurd rfl hkey
              · exact Or.inr hr
            · rcases List.mem_cons.mp hold with rfl | hold
              · exact Or.inl rfl
              · exact absurd hkey (hne old hold)
            · exact absurd rfl (hnone first List.mem_cons_self)
        · rename_i hne
          have hne : first.key ≠ key := Ne.symm hne
          rw [List.mem_cons, ih hrest]
          constructor
          · rintro (rfl | ⟨hr, hkey⟩ | ⟨old, hold, hkey, rfl⟩ | ⟨hnone, rfl⟩)
            · exact Or.inl ⟨List.mem_cons_self, hne⟩
            · exact Or.inl ⟨List.mem_cons_of_mem _ hr, hkey⟩
            · exact Or.inr (Or.inl ⟨old, List.mem_cons_of_mem _ hold, hkey, rfl⟩)
            · exact Or.inr (Or.inr ⟨List.forall_mem_cons.mpr ⟨hne, hnone⟩, rfl⟩)
          · rintro (⟨hr, hkey⟩ | ⟨old, hold, hkey, rfl⟩ | ⟨hnone, rfl⟩)
            · exact (List.mem_cons.mp hr).imp_right fun hr => Or.inl ⟨hr, hkey⟩
            · rcases List.mem_cons.mp hold with rfl | hold
              · exact absurd hkey hne
              · exact Or.inr (Or.inr (Or.inl ⟨old, hold, hkey, rfl⟩))
            · exact Or.inr (Or.inr (Or.inr ⟨(List.forall_mem_cons.mp hnone).2, rfl⟩))

theorem key_of_mem_addOperation (h : resources.Pairwise fun r s => r.key < s.key)
    (hr : r ∈ addOperation key name op resources) :
    r.key = key ∨ ∃ old ∈ resources, old.key = r.key := by
  rcases (mem_addOperation h).mp hr with ⟨hr, _⟩ | ⟨old, _, hkey, rfl⟩ | ⟨_, rfl⟩
  · exact Or.inr ⟨r, hr, rfl⟩
  · exact Or.inl hkey
  · exact Or.inl rfl

/-- Resources stay sorted by key. -/
theorem addOperation_ascending (h : resources.Pairwise fun r s => r.key < s.key) :
    (addOperation key name op resources).Pairwise fun r s => r.key < s.key := by
  induction resources with
  | nil => exact List.pairwise_singleton _ _
  | cons first rest ih =>
      obtain ⟨hfirst, hrest⟩ := List.pairwise_cons.mp h
      unfold addOperation
      split
      · rename_i hlt
        refine List.pairwise_cons.mpr ⟨fun s hs => ?_, h⟩
        rcases List.mem_cons.mp hs with rfl | hs
        · exact hlt
        · exact String.lt_trans hlt (hfirst s hs)
      · rename_i hnlt
        split
        · exact List.pairwise_cons.mpr ⟨hfirst, hrest⟩
        · rename_i hne
          refine List.pairwise_cons.mpr ⟨fun s hs => ?_, ih hrest⟩
          rcases key_of_mem_addOperation hrest hs with hkey | ⟨old, hold, hkey⟩
          · rw [hkey]
            exact Std.lt_of_le_of_ne (String.not_lt.mp hnlt) (Ne.symm hne)
          · rw [← hkey]
            exact hfirst old hold

/-- The operations of all resources are those from before and the one added. -/
theorem operations_addOperation (key name : String) (op : Operation) (resources : List Resource) :
    ((addOperation key name op resources).flatMap (·.operations)).Perm
      (resources.flatMap (·.operations) ++ [op]) := by
  induction resources with
  | nil => simp [addOperation]
  | cons first rest ih =>
      unfold addOperation
      split
      · exact List.perm_append_singleton op _ |>.symm
      · split
        · simp only [List.flatMap_cons, List.append_assoc]
          exact List.perm_append_comm.append_left _
        · simp only [List.flatMap_cons, List.append_assoc]
          exact ih.append_left _

end AddOperation

section Gathering

variable {grouping : Grouping} {prefixes : List String}

/-- How resources gather declarations: each declaration in the resource of its key, in the order in
which they are listed. -/
structure Gathers (grouping : Grouping) (prefixes : List String) (declarations : List Declaration)
    (resources : List Resource) : Prop where
  keys : resources.Pairwise fun r s => r.key < s.key
  covered : ∀ d ∈ declarations, ∃ r ∈ resources, r.key = d.resourceKey grouping prefixes
  own : ∀ r ∈ resources, ∃ first rest,
    belonging grouping prefixes r.key declarations = first :: rest ∧
    r.name = first.resourceName grouping prefixes ∧ Amount (first :: rest) r.operations
  once : ∃ ops, Amount declarations ops ∧ (resources.flatMap (·.operations)).Perm ops

theorem gathers_nil (grouping : Grouping) (prefixes : List String) :
    Gathers grouping prefixes [] [] where
  keys := List.Pairwise.nil
  covered := List.forall_mem_nil _
  own := List.forall_mem_nil _
  once := ⟨[], List.Forall₂.nil, List.Perm.nil⟩

/-- A resource that is not there yet has no declarations. -/
theorem Gathers.belonging_eq_nil {declarations : List Declaration} {resources : List Resource}
    (h : Gathers grouping prefixes declarations resources) {key : String}
    (hnone : ∀ r ∈ resources, r.key ≠ key) : belonging grouping prefixes key declarations = [] := by
  apply List.filter_eq_nil_iff.mpr
  intro d hd hkey
  obtain ⟨r, hr, hrkey⟩ := h.covered d hd
  exact hnone r hr (hrkey.trans (beq_iff_eq.mp hkey))

/-- Adding the operation of one more declaration gathers it too. -/
theorem Gathers.add {declarations : List Declaration} {resources : List Resource}
    (h : Gathers grouping prefixes declarations resources) {d : Declaration} {op : Operation}
    (hop : d.operation = .ok op) :
    Gathers grouping prefixes (declarations ++ [d])
      (addOperation (d.resourceKey grouping prefixes) (d.resourceName grouping prefixes) op
        resources) := by
  constructor
  case keys => exact addOperation_ascending h.keys
  case covered =>
    intro e he
    rcases List.mem_append.mp he with he | he
    · obtain ⟨r, hr, hkey⟩ := h.covered e he
      by_cases hsame : r.key = d.resourceKey grouping prefixes
      · exact ⟨_, (mem_addOperation h.keys).mpr (Or.inr (Or.inl ⟨r, hr, hsame, rfl⟩)), hkey⟩
      · exact ⟨r, (mem_addOperation h.keys).mpr (Or.inl ⟨hr, hsame⟩), hkey⟩
    · obtain rfl := List.mem_singleton.mp he
      by_cases hold : ∃ r ∈ resources, r.key = e.resourceKey grouping prefixes
      · obtain ⟨r, hr, hkey⟩ := hold
        exact ⟨_, (mem_addOperation h.keys).mpr (Or.inr (Or.inl ⟨r, hr, hkey, rfl⟩)), hkey⟩
      · have hnone : ∀ r ∈ resources, r.key ≠ e.resourceKey grouping prefixes :=
          fun r hr hkey => hold ⟨r, hr, hkey⟩
        exact ⟨_, (mem_addOperation h.keys).mpr (Or.inr (Or.inr ⟨hnone, rfl⟩)), rfl⟩
  case own =>
    intro r hr
    rcases (mem_addOperation h.keys).mp hr with ⟨hr, hkey⟩ | ⟨old, hold, hkey, rfl⟩ | ⟨hnone, rfl⟩
    · obtain ⟨first, rest, hbelong, hname, hamount⟩ := h.own r hr
      refine ⟨first, rest, ?_, hname, hamount⟩
      rw [Declaration.belonging_append_of_ne (Ne.symm hkey), hbelong]
    · obtain ⟨first, rest, hbelong, hname, hamount⟩ := h.own old hold
      refine ⟨first, rest ++ [d], ?_, hname, hamount.concat hop⟩
      simp only [Declaration.belonging_append_of_eq hkey.symm, hbelong, List.cons_append]
    · refine ⟨d, [], ?_, rfl, List.Forall₂.cons hop List.Forall₂.nil⟩
      rw [Declaration.belonging_append_of_eq rfl, h.belonging_eq_nil hnone, List.nil_append]
  case once =>
    obtain ⟨ops, hamount, hperm⟩ := h.once
    refine ⟨ops ++ [op], hamount.concat hop, ?_⟩
    exact (operations_addOperation _ _ _ _).trans (hperm.append_right _)

theorem addDeclaration_eq_ok {resources resources' : List Resource} {d : Declaration} :
    addDeclaration grouping prefixes resources d = .ok resources' ↔
      ∃ op, d.operation = .ok op ∧ resources' =
        addOperation (d.resourceKey grouping prefixes) (d.resourceName grouping prefixes) op
          resources := by
  unfold addDeclaration
  rw [bind_eq_ok]
  refine exists_congr fun op => and_congr_right fun _ => ?_
  constructor
  · intro h
    exact (Except.ok.inj h).symm
  · rintro rfl
    rfl

theorem addDeclaration_eq_error {resources : List Resource} {d : Declaration} {e : Diagnostic} :
    addDeclaration grouping prefixes resources d = .error e ↔ d.operation = .error e := by
  unfold addDeclaration
  rw [bind_eq_error]
  constructor
  · rintro (h | ⟨op, _, h⟩)
    · exact h
    · contradiction
  · exact Or.inl

/-- A run over declarations gathers them all. -/
theorem gathers_of_foldlM {declarations : List Declaration} {resources : List Resource}
    (h : declarations.foldlM (addDeclaration grouping prefixes) [] = .ok resources) :
    Gathers grouping prefixes declarations resources := by
  apply foldlM_prefix_invariant h
  · exact gathers_nil grouping prefixes
  · intro before d resources resources' hbefore hstep
    obtain ⟨op, hop, rfl⟩ := addDeclaration_eq_ok.mp hstep
    exact hbefore.add hop

/-- A run over declarations fails at the first one that amounts to no operation. -/
theorem foldlM_addDeclaration_eq_error {declarations : List Declaration} {e : Diagnostic} :
    declarations.foldlM (addDeclaration grouping prefixes) [] = .error e ↔
      ∃ before d after ops, declarations = before ++ d :: after ∧ Amount before ops ∧
        d.operation = .error e := by
  constructor
  · intro h
    obtain ⟨before, d, after, resources, rfl, hbefore, hfail⟩ := foldlM_eq_error h
    obtain ⟨ops, hops, _⟩ := (gathers_of_foldlM hbefore).once
    exact ⟨before, d, after, ops, rfl, hops, addDeclaration_eq_error.mp hfail⟩
  · rintro ⟨before, d, after, ops, rfl, hops, hfail⟩
    have hstep : ∀ a ∈ before, ∀ resources, ∃ resources',
        addDeclaration grouping prefixes resources a = .ok resources' := by
      intro a ha resources
      obtain ⟨op, _, hop⟩ := exists_of_forall₂ hops ha
      exact ⟨_, addDeclaration_eq_ok.mpr ⟨op, hop, rfl⟩⟩
    obtain ⟨resources, hresources⟩ := exists_foldlM_eq_ok hstep []
    rw [List.foldlM_append]
    refine bind_eq_error.mpr (Or.inr ⟨resources, hresources, ?_⟩)
    rw [List.foldlM_cons]
    exact bind_eq_error.mpr (Or.inl (addDeclaration_eq_error.mpr hfail))

end Gathering

section Sorting

instance : TransCmp operationOrder :=
  inferInstanceAs (TransCmp (compareLex (compareLex (compareOn fun op : Operation => op.kind.rank)
    (compareOn fun op => op.path)) (compareOn fun op => op.method.rank)))

theorem operationOrder_eq_lt {a b : Operation} (h : operationOrder a b = .lt) : a.Precedes b := by
  rcases Ordering.then_eq_lt.mp h with h | ⟨hsame, hmethod⟩
  · rcases Ordering.then_eq_lt.mp h with hkind | ⟨hkind, hpath⟩
    · exact Or.inl (Nat.compare_eq_lt.mp hkind)
    · exact Or.inr ⟨OperationKind.rank_injective (Nat.compare_eq_eq.mp hkind),
        Or.inl (compareOfLessAndEq_eq_lt.mp hpath)⟩
  · obtain ⟨hkind, hpath⟩ := Ordering.then_eq_eq.mp hsame
    exact Or.inr ⟨OperationKind.rank_injective (Nat.compare_eq_eq.mp hkind),
      Or.inr ⟨LawfulEqOrd.eq_of_compare hpath, Nat.compare_eq_lt.mp hmethod⟩⟩

theorem operationOrder_eq_eq {a b : Operation} (h : operationOrder a b = .eq) :
    a.path = b.path ∧ a.method = b.method := by
  obtain ⟨hsame, hmethod⟩ := Ordering.then_eq_eq.mp h
  exact ⟨LawfulEqOrd.eq_of_compare (Ordering.then_eq_eq.mp hsame).2,
    Method.rank_injective (Nat.compare_eq_eq.mp hmethod)⟩

/-- Sorted operations ascend strictly if no two of them have a path and a method in common. -/
theorem sortOperations_precedes {r : Resource} (h : r.operations.Pairwise
    fun a b => ¬ (a.path = b.path ∧ a.method = b.method)) :
    (sortOperations r).operations.Pairwise Operation.Precedes := by
  have hsorted : (sortOperations r).operations.Pairwise fun a b =>
      (operationOrder a b).isLE = true := mergeSort_ascending r.operations
  have hdistinct : (sortOperations r).operations.Pairwise
      fun a b => ¬ (a.path = b.path ∧ a.method = b.method) := by
    refine (List.Perm.pairwise_iff ?_ (List.mergeSort_perm _ _).symm).mp h
    rintro a b hab ⟨hpath, hmethod⟩
    exact hab ⟨hpath.symm, hmethod.symm⟩
  refine hsorted.imp₂ (fun a b hle hne => ?_) hdistinct
  rcases Ordering.isLE_iff_eq_lt_or_eq_eq.mp hle with hlt | heq
  · exact operationOrder_eq_lt hlt
  · exact absurd (operationOrder_eq_eq heq) hne

/-- The operations of different declarations have different paths or methods. -/
theorem amount_distinct {declarations : List Declaration} {ops : List Operation}
    (h : Amount declarations ops) (hprecedes : declarations.Pairwise Declaration.Precedes) :
    ops.Pairwise fun a b => ¬ (a.path = b.path ∧ a.method = b.method) := by
  induction h with
  | nil => exact List.Pairwise.nil
  | @cons d op rest ops' hop hrest ih =>
      obtain ⟨hfirst, hprecedes⟩ := List.pairwise_cons.mp hprecedes
      refine List.pairwise_cons.mpr ⟨fun op' hop' => ?_, ih hprecedes⟩
      obtain ⟨e, he, heop⟩ := exists_of_forall₂ hrest.flip hop'
      have hne := (hfirst e he).ne
      rwa [← Declaration.path_of_operation hop, ← Declaration.path_of_operation heop,
        ← Declaration.method_of_operation hop, ← Declaration.method_of_operation heop] at hne

end Sorting

section Build

variable {root : Json} {prefixes : List String} {b : ApiBuild}

/-- Building fails for a document without declarations, and at the first declaration that amounts to
no operation. -/
theorem ofDocument_eq_error {e : Diagnostic} : ofDocument root prefixes = .error e ↔
    (Declaration.all root = [] ∧ e = noOperations) ∨
    ∃ before d after ops, Declaration.all root = before ++ d :: after ∧ Amount before ops ∧
      d.operation = .error e := by
  unfold ofDocument
  by_cases hall : Declaration.all root = []
  · rw [if_pos (by rw [hall]; rfl)]
    constructor
    · intro h
      exact Or.inl ⟨hall, (Except.error.inj h).symm⟩
    · rintro (⟨_, rfl⟩ | ⟨before, d, after, _, hsplit, _⟩)
      · rfl
      · rw [hall] at hsplit
        exact absurd hsplit.symm (by simp)
  · rw [if_neg (by rwa [List.isEmpty_iff]), bind_eq_error, foldlM_addDeclaration_eq_error]
    constructor
    · rintro (h | ⟨_, _, h⟩)
      · exact Or.inr h
      · contradiction
    · rintro (⟨h, _⟩ | h)
      · exact absurd h hall
      · exact Or.inl h

theorem ofDocument_eq_ok (h : ofDocument root prefixes = .ok b) :
    b.grouping = Grouping.choose ((Declaration.all root).map (·.tags)) ∧ ∃ resources,
      (Declaration.all root).foldlM (addDeclaration b.grouping prefixes) [] = .ok resources ∧
        b.model = ⟨info root, resources.map sortOperations⟩ := by
  unfold ofDocument at h
  dsimp only at h
  split at h
  · contradiction
  · obtain ⟨resources, hresources, hbuild⟩ := bind_eq_ok.mp h
    obtain rfl := Except.ok.inj hbuild
    exact ⟨rfl, resources, hresources, rfl⟩

/-- A model is built from resources that gather the declarations. -/
theorem gathers_of_ofDocument (h : ofDocument root prefixes = .ok b) :
    b.grouping = Grouping.choose ((Declaration.all root).map (·.tags)) ∧ ∃ resources,
      Gathers b.grouping prefixes (Declaration.all root) resources ∧
        b.model = ⟨info root, resources.map sortOperations⟩ := by
  obtain ⟨hgrouping, resources, hresources, hmodel⟩ := ofDocument_eq_ok h
  exact ⟨hgrouping, resources, gathers_of_foldlM hresources, hmodel⟩

/-- How a model partitions the operations of a document. -/
structure Partitions (root : Json) (prefixes : List String) (b : ApiBuild) : Prop where
  grouping : b.grouping = Grouping.choose ((Declaration.all root).map (·.tags))
  keys : b.model.resources.Pairwise fun r s => r.key < s.key
  covered : ∀ d ∈ Declaration.all root, ∃ r ∈ b.model.resources,
    r.key = d.resourceKey b.grouping prefixes
  own : ∀ r ∈ b.model.resources, ∃ first rest ops,
    belonging b.grouping prefixes r.key (Declaration.all root) = first :: rest ∧
    r.name = first.resourceName b.grouping prefixes ∧ Amount (first :: rest) ops ∧
    r.operations.Perm ops ∧ r.operations ≠ []
  once : ∃ ops, Amount (Declaration.all root) ops ∧
    (b.model.resources.flatMap (·.operations)).Perm ops
  sorted : ∀ r ∈ b.model.resources, r.operations.Pairwise Operation.Precedes
  classified : ∀ r ∈ b.model.resources, ∀ op ∈ r.operations, op.Classified

theorem sortOperations_perm (r : Resource) : (sortOperations r).operations.Perm r.operations :=
  List.mergeSort_perm _ _

theorem operations_sortOperations (resources : List Resource) :
    ((resources.map sortOperations).flatMap (·.operations)).Perm
      (resources.flatMap (·.operations)) := by
  rw [List.flatMap_map]
  induction resources with
  | nil => exact List.Perm.nil
  | cons r rest ih =>
      rw [List.flatMap_cons, List.flatMap_cons]
      exact (sortOperations_perm r).append ih

theorem partitions_of_ofDocument (hroot : root.IsTree) (h : ofDocument root prefixes = .ok b) :
    b.Partitions root prefixes := by
  obtain ⟨hgrouping, resources, hgathers, hmodel⟩ := gathers_of_ofDocument h
  obtain ⟨ops, hops, hperm⟩ := hgathers.once
  -- All operations together differ in path or method, so those of one resource do.
  have hdistinct := amount_distinct hops (Declaration.all_precedes hroot)
  have hwithin : ∀ r ∈ resources, r.operations.Pairwise
      fun a b => ¬ (a.path = b.path ∧ a.method = b.method) := by
    have hall := (hperm.pairwise_iff fun h ⟨hpath, hmethod⟩ =>
      h ⟨hpath.symm, hmethod.symm⟩).mpr hdistinct
    exact (List.pairwise_flatMap.mp hall).1
  have hmem : ∀ r ∈ b.model.resources, ∃ r' ∈ resources, r = sortOperations r' := by
    intro r hr
    rw [hmodel] at hr
    obtain ⟨r', hr', rfl⟩ := List.mem_map.mp hr
    exact ⟨r', hr', rfl⟩
  constructor
  case grouping => exact hgrouping
  case keys =>
    rw [hmodel]
    exact List.pairwise_map.mpr hgathers.keys
  case covered =>
    intro d hd
    obtain ⟨r, hr, hkey⟩ := hgathers.covered d hd
    rw [hmodel]
    exact ⟨sortOperations r, List.mem_map_of_mem hr, hkey⟩
  case own =>
    intro r hr
    obtain ⟨r', hr', rfl⟩ := hmem r hr
    obtain ⟨first, rest, hbelong, hname, hamount⟩ := hgathers.own r' hr'
    refine ⟨first, rest, r'.operations, hbelong, hname, hamount, sortOperations_perm r', ?_⟩
    intro hnil
    have hlength := (sortOperations_perm r').length_eq
    rw [hnil, ← hamount.length_eq] at hlength
    contradiction
  case once =>
    refine ⟨ops, hops, ?_⟩
    rw [hmodel]
    exact (operations_sortOperations resources).trans hperm
  case sorted =>
    intro r hr
    obtain ⟨r', hr', rfl⟩ := hmem r hr
    exact sortOperations_precedes (hwithin r' hr')
  case classified =>
    intro r hr op hop
    obtain ⟨r', hr', rfl⟩ := hmem r hr
    obtain ⟨first, rest, _, _, hamount⟩ := hgathers.own r' hr'
    obtain ⟨d, _, hd⟩ := exists_of_forall₂ hamount.flip ((sortOperations_perm r').mem_iff.mp hop)
    exact Declaration.classified_of_operation hd

/-- A document lists its declarations by path and method. Building its model fails exactly if there
are none, or with the fault of the first one that amounts to no operation; otherwise the model
partitions their operations. -/
theorem ofDocument_outcome (hroot : root.IsTree) (prefixes : List String) :
    (Declaration.all root).Pairwise Declaration.Precedes ∧
    (∀ d, d ∈ Declaration.all root ↔ ∃ path item method node,
      (path, item) ∈ Subset.paths root ∧ item.get? method.key = some node ∧
      d = Declaration.ofNode path method node) ∧
    (∀ e, ofDocument root prefixes = .error e ↔
      (Declaration.all root = [] ∧ e = noOperations) ∨
      ∃ before d after ops, Declaration.all root = before ++ d :: after ∧ Amount before ops ∧
        d.operation = .error e) ∧
    ∀ b, ofDocument root prefixes = .ok b → b.Partitions root prefixes := by
  refine ⟨Declaration.all_precedes hroot, fun _ => Declaration.mem_all, ?_, ?_⟩
  · intro e
    exact ofDocument_eq_error
  · intro b hb
    exact partitions_of_ofDocument hroot hb

/-- A document that lists, creates and deletes things, with the schema of what is returned. -/
def sampleRoot : Json :=
  let body : Json := .object [("content", .object [("application/json", .object [("schema",
    .object [("type", .string "object")])])])]
  .object [("paths", .object [
    ("/things", .object [("get", .object [("responses", .object [("200", body)])]),
      ("post", .object [("requestBody", body), ("responses", .object [("201", body)])])]),
    ("/things/{id}", .object [("delete", .object [("responses", .object [("200", body)])])])])]

theorem ofDocument_outcome_sample :
    sampleRoot.IsTree ∧ ∃ b, ofDocument sampleRoot [] = .ok b ∧ b.Partitions sampleRoot [] ∧
      b.model.resources.map (fun r => (r.key, r.name)) = [("things", "Things")] := by
  have hroot : sampleRoot.IsTree := by decide +kernel
  have hmodel : (ofDocument sampleRoot []).map
      (fun b => b.model.resources.map fun r => (r.key, r.name)) = .ok [("things", "Things")] := by
    decide +kernel
  obtain ⟨b, hb, hmodel⟩ := map_eq_ok.mp hmodel
  exact ⟨hroot, b, hb, (ofDocument_outcome hroot []).2.2.2 b hb, hmodel⟩

end Build

end ApiBuild

end ApiScreens
