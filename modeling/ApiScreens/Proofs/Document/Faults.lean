import ApiScreens.Proofs.Document.CombiningKeywords

/-!
# The faults of documents

What validation reports are violations of the subset and nothing else, and what stops the
replacement of references is one of them that cannot be replaced. Either is reported with a pointer
that follows the way on which it was found, from the root through members, items and references.
-/

namespace ApiScreens

open Json (Pointer)
open Reference (all)
open Relation (ReflTransGen)

/-- What a value at a pointer leads to: its items and members, and what it refers to. -/
inductive Json.Reaches (root : Json) : Pointer × Json → Pointer × Json → Prop
  | item {place : Pointer} {items : List Json} {i : Nat} {v : Json} (found : items[i]? = some v) :
      Reaches root (place, .array items) (Pointer.push place (toString i), v)
  | member {place : Pointer} {members : Members} {m : String × Json} (mem : m ∈ members) :
      Reaches root (place, .object members) (Pointer.push place m.1, m.2)
  | target {place pointer : Pointer} {v target : Json} {s : String}
      (reference : v.reference? = some s) (written : referencePointer? s = some pointer)
      (found : root.target? s = some target) : Reaches root (place, v) (pointer, target)

open Json (Reaches)

namespace Subset

section Ways

variable {root v w : Json} {place : Pointer}

theorem reaches_get? {key : String} (h : v.get? key = some w) :
    Reaches root (place, v) (Pointer.push place key, w) := by
  cases v with
  | object members => exact @Reaches.member root place members (key, w) (Keyed.mem_of_get? h)
  | _ => contradiction

theorem reaches_getPath? {keys : List String} (h : getPath? v keys = some w) :
    ReflTransGen (Reaches root) (place, v) (Pointer.pushAll place keys, w) := by
  induction keys generalizing v place with
  | nil =>
      obtain rfl := Option.some.inj h
      exact ReflTransGen.refl
  | cons key rest ih =>
      obtain ⟨u, hu, hw⟩ := Option.bind_eq_some_iff.mp h
      exact (ih hw).head (reaches_get? hu)

theorem reaches_dereference (root v : Json) (place : Pointer) :
    ReflTransGen (Reaches root) (place, v) (dereference root v place).swap := by
  unfold dereference
  split
  · exact ReflTransGen.refl
  · rename_i s href
    split
    · rename_i hpointer htarget
      exact ReflTransGen.single (Reaches.target href hpointer htarget)
    · exact ReflTransGen.refl

theorem Leads.reaches {x y : Pointer × Json} (h : Leads root x y) :
    ReflTransGen (Reaches root) x y := by
  cases h with
  | reference href _ hpointer htarget =>
      exact ReflTransGen.single (Reaches.target href hpointer htarget)
  | items _ hfound => exact ReflTransGen.single (reaches_get? hfound)
  | property _ hfound hm =>
      exact (ReflTransGen.single (reaches_get? hfound)).tail (Reaches.member hm)

theorem reaches_paths {m : String × Json} (h : m ∈ paths root) :
    ReflTransGen (Reaches root) ("", root) (Pointer.ofTokens ["paths", m.1], m.2) := by
  unfold paths at h
  cases hpaths : root.get? "paths" with
  | none =>
      rw [hpaths] at h
      contradiction
  | some v =>
      rw [hpaths] at h
      cases v with
      | object members =>
          exact (ReflTransGen.single (reaches_get? hpaths)).tail (Reaches.member h)
      | _ => contradiction

end Ways

variable {root operation : Json} {method : Method} {place : Pointer} {d : Diagnostic}

/-- A violation at a value that the document leads to. If a keyword is not supported, the value is
what an object has under the keyword. -/
def Placed (root : Json) (d : Diagnostic) : Prop :=
  ∃ (violation : Violation) (place : Pointer) (v : Json), d = violation.diagnostic place ∧
    ReflTransGen (Reaches root) ("", root) (place, v) ∧ ∀ k, violation = .composition k →
      k ∈ compositionKeywords ∧ ∃ parent u, ReflTransGen (Reaches root) ("", root) (parent, u) ∧
        u.get? k = some v ∧ place = Pointer.push parent k

theorem placed_of_ne {violation : Violation} {v : Json}
    (hne : ∀ k, violation ≠ .composition k)
    (hreach : ReflTransGen (Reaches root) ("", root) (place, v)) :
    Placed root (violation.diagnostic place) :=
  ⟨violation, place, v, rfl, hreach, fun k hk => absurd hk (hne k)⟩

theorem placed_of_schema {v : Json} (h : all v ⊆ all root)
    (hreach : ReflTransGen (Reaches root) ("", root) (place, v))
    (hd : d ∈ schemaViolations root place v) : Placed root d := by
  obtain ⟨⟨parent, u⟩, hleads, _, k, hk, hsome, rfl⟩ := (mem_schemaViolations_iff h).mp hd
  obtain ⟨w, hw⟩ := Option.isSome_iff_exists.mp hsome
  have hparent : ReflTransGen (Reaches root) ("", root) (parent, u) :=
    hreach.trans (hleads.lift' id fun _ _ => Leads.reaches)
  refine ⟨.composition k, _, w, rfl, hparent.tail (reaches_get? hw), ?_⟩
  rintro _ ⟨rfl⟩
  exact ⟨hk, parent, u, hparent, hw, rfl⟩

theorem placed_of_operation (h : all operation ⊆ all root)
    (hreach : ReflTransGen (Reaches root) ("", root) (place, operation))
    (hd : d ∈ operationViolations root method operation place) : Placed root d := by
  simp only [operationViolations, List.mem_append, List.mem_flatMap] at hd
  rcases hd with ((hd | hd) | hd) | ⟨code, _, hd⟩
  · obtain ⟨tags, htags, rfl⟩ := mem_tagViolations hd
    exact placed_of_ne (fun _ h => by cases h) (hreach.tail (reaches_get? htags))
  · obtain ⟨_, rfl⟩ := mem_successViolations hd
    cases hresponses : operation.get? "responses" with
    | none =>
        -- An operation without responses has none of success.
        rw [hresponses] at hd
        contradiction
    | some responses =>
        exact placed_of_ne (fun _ h => by cases h) (hreach.tail (reaches_get? hresponses))
  · obtain rfl := mem_bodyViolations hd
    exact placed_of_ne (fun _ h => by cases h) hreach
  · obtain ⟨response, hfound, schema, hbody, hd⟩ := mem_responseViolations_iff.mp hd
    cases hresponses : operation.get? "responses" with
    | none =>
        rw [hresponses] at hfound
        contradiction
    | some responses =>
        rw [hresponses, Option.getD_some] at hfound
        have hall := List.Subset.trans (all_subset_of_get? hresponses) h
        have hresponse := List.Subset.trans (all_subset_of_get? hfound) hall
        have hschema := List.Subset.trans (all_subset_of_getPath? hbody)
          (all_dereference_subset hresponse _)
        refine placed_of_schema hschema ?_ hd
        calc ReflTransGen (Reaches root) ("", root) (place, operation) := hreach
          ReflTransGen (Reaches root) _ (_, responses) :=
              ReflTransGen.single (reaches_get? hresponses)
          ReflTransGen (Reaches root) _ (_, response) := ReflTransGen.single (reaches_get? hfound)
          ReflTransGen (Reaches root) _ _ := reaches_dereference root response _
          ReflTransGen (Reaches root) _ (_, schema) := reaches_getPath? hbody

/-- Validation reports violations and nothing else, each at a value that the document leads to. -/
theorem placed_of_violations (hd : d ∈ violations root) : Placed root d := by
  obtain ⟨⟨path, item⟩, hlisted, hd⟩ := List.mem_flatMap.mp hd
  have hitem := reaches_paths hlisted
  simp only [pathViolations, List.mem_append, List.mem_flatMap] at hd
  rcases hd with hd | ⟨method, _, hd⟩
  · obtain ⟨_, rfl⟩ := mem_parameterViolations hd
    exact placed_of_ne (fun _ h => by cases h) hitem
  · split at hd
    · rename_i operation hoperation
      exact placed_of_operation (List.Subset.trans (all_subset_of_get? hoperation)
        (all_subset_of_mem_paths hlisted)) (hitem.tail (reaches_get? hoperation)) hd
    · contradiction

end Subset

/-- The reference that an error is about; of a chain the last one, which is there before. -/
def ReferenceError.refused? : ReferenceError → Option String
  | external s | dangling s => some s
  | circular chain => chain.getLast?

namespace Reference

variable {root v : Json} {place : Pointer} {d : Diagnostic}

section Rewriting

/-- A part of a value at a pointer, and the pointer to it; a reference has no parts. -/
inductive Contains : Pointer × Json → Pointer × Json → Prop
  | item {place : Pointer} {items : List Json} {i : Nat} {v : Json} (found : items[i]? = some v) :
      Contains (place, .array items) (Pointer.push place (toString i), v)
  | member {place : Pointer} {members : Json.Members} {m : String × Json}
      (plain : (Json.object members).reference? = none) (mem : m ∈ members) :
      Contains (place, .object members) (Pointer.push place m.1, m.2)

theorem Contains.all_subset {x y : Pointer × Json} (h : Contains x y) : all y.2 ⊆ all x.2 := by
  intro s hs
  cases h with
  | item hfound => exact mem_all_array.mpr ⟨_, List.mem_of_getElem? hfound, hs⟩
  | member _ hm => exact mem_all_object.mpr (Or.inr ⟨_, hm, hs⟩)

theorem all_subset_of_contains {x y : Pointer × Json} (h : ReflTransGen Contains x y) :
    all y.2 ⊆ all x.2 := by
  induction h with
  | refl => exact List.Subset.refl _
  | tail _ hstep ih => exact List.Subset.trans hstep.all_subset ih

theorem reaches_of_contains {x y : Pointer × Json} (h : ReflTransGen Contains x y) :
    ReflTransGen (Reaches root) x y := by
  refine h.lift id fun x y hstep => ?_
  cases hstep with
  | item hfound => exact Reaches.item hfound
  | member _ hm => exact Reaches.member hm

variable {follow : Pointer → String → Except Diagnostic Json}

theorem expandItems_eq_error {items : List Json} {index : Nat}
    (h : expandItems follow place index items = .error d) : ∃ i v, items[i]? = some v ∧
      expand follow (Pointer.push place (toString (index + i))) v = .error d := by
  induction items generalizing index with
  | nil => contradiction
  | cons v rest ih =>
      rw [expandItems] at h
      rcases bind_eq_error.mp h with hv | ⟨_, _, h⟩
      · exact ⟨0, v, rfl, hv⟩
      · rcases bind_eq_error.mp h with hrest | ⟨_, _, hdone⟩
        · obtain ⟨i, w, hi, hw⟩ := ih hrest
          refine ⟨i + 1, w, hi, ?_⟩
          rwa [Nat.add_assoc, Nat.add_comm 1 i] at hw
        · contradiction

theorem expandMembers_eq_error {members : Json.Members}
    (h : expandMembers follow place members = .error d) :
    ∃ m ∈ members, expand follow (Pointer.push place m.1) m.2 = .error d := by
  induction members with
  | nil => contradiction
  | cons m rest ih =>
      rw [expandMembers] at h
      rcases bind_eq_error.mp h with hm | ⟨_, _, h⟩
      · exact ⟨m, List.mem_cons_self, hm⟩
      · rcases bind_eq_error.mp h with hrest | ⟨_, _, hdone⟩
        · obtain ⟨n, hn, herror⟩ := ih hrest
          exact ⟨n, List.mem_cons_of_mem _ hn, herror⟩
        · contradiction

/-- A rewriting fails only where following a reference does that is in the value. -/
theorem expand_eq_error (h : expand follow place v = .error d) : ∃ x s,
    ReflTransGen Contains (place, v) x ∧ x.2.reference? = some s ∧ follow x.1 s = .error d := by
  induction v generalizing place with
  | array items ih =>
      rw [expand_array, map_eq_error] at h
      obtain ⟨i, w, hi, hw⟩ := expandItems_eq_error h
      rw [Nat.zero_add] at hw
      obtain ⟨x, s, hinside, hx⟩ := ih w (List.mem_of_getElem? hi) hw
      exact ⟨x, s, hinside.head (Contains.item hi), hx⟩
  | object members ih =>
      cases href : (Json.object members).reference? with
      | some s =>
          rw [expand_reference href] at h
          exact ⟨(place, .object members), s, ReflTransGen.refl, href, h⟩
      | none =>
          rw [expand_object href, map_eq_error] at h
          obtain ⟨m, hm, hw⟩ := expandMembers_eq_error h
          obtain ⟨x, s, hinside, hx⟩ := ih m hm hw
          exact ⟨x, s, hinside.head (Contains.member href hm), hx⟩
  | _ => contradiction

end Rewriting

/-- Why a reference is refused that is met behind a chain of others. -/
inductive Refuses (root : Json) (chain : List String) (s : String) : ReferenceError → Prop
  | external (outside : Json.isLocalReference s = false) : Refuses root chain s (.external s)
  | circular (mem : s ∈ chain) : Refuses root chain s (.circular (chain ++ [s]))
  | dangling (here : Json.isLocalReference s = true) (missing : root.target? s = none) :
      Refuses root chain s (.dangling s)

theorem Refuses.refused? {chain : List String} {s : String} {e : ReferenceError}
    (h : Refuses root chain s e) : e.refused? = some s := by
  cases h with
  | circular _ => exact List.getLast?_concat
  | _ => rfl

/-- Following a reference fails as it is refused, or where rewriting its target does. -/
theorem follow_eq_error {inner : List String → Pointer → Json → Except Diagnostic Json}
    {chain : List String} {s : String} (h : follow root inner chain place s = .error d) :
    (∃ e, Refuses root chain s e ∧ d = e.diagnostic place) ∨
      ∃ pointer target, s ∉ chain ∧ Json.referencePointer? s = some pointer ∧
        root.target? s = some target ∧ inner (chain ++ [s]) pointer target = .error d := by
  unfold follow at h
  split at h
  · rename_i hlocal
    exact Or.inl ⟨_, .external (by simpa using hlocal), (Except.error.inj h).symm⟩
  · rename_i hlocal
    split at h
    · rename_i hmem
      exact Or.inl ⟨_, .circular (by simpa using hmem), (Except.error.inj h).symm⟩
    · rename_i hnew
      split at h
      · rename_i pointer target hpointer htarget
        exact Or.inr ⟨pointer, target, by simpa using hnew, hpointer, htarget, h⟩
      · rename_i hmissing
        have hnone : root.target? s = none := by
          by_contra hsome
          obtain ⟨target, htarget⟩ := Option.ne_none_iff_exists'.mp hsome
          obtain ⟨pointer, hpointer, _⟩ := Option.bind_eq_some_iff.mp htarget
          exact hmissing pointer target hpointer htarget
        exact Or.inl ⟨_, .dangling (by simpa using hlocal) hnone, (Except.error.inj h).symm⟩

/-- A chain of references that leads from the root to a value at a pointer: each is found inside of
what the one before it names. -/
inductive Trail (root : Json) : List String → Pointer × Json → Prop
  | start : Trail root [] ("", root)
  | follow {chain : List String} {x y : Pointer × Json} {s : String} {pointer : Pointer}
      {target : Json} (trail : Trail root chain x) (inside : ReflTransGen Contains x y)
      (reference : y.2.reference? = some s) (written : Json.referencePointer? s = some pointer)
      (found : root.target? s = some target) : Trail root (chain ++ [s]) (pointer, target)

section Trails

variable {chain : List String} {x : Pointer × Json}

theorem Trail.all_subset (h : Trail root chain x) : all x.2 ⊆ all root := by
  cases h with
  | start => exact List.Subset.refl _
  | follow _ _ _ _ hfound => exact all_subset_of_target? hfound

theorem Trail.reaches (h : Trail root chain x) : ReflTransGen (Reaches root) ("", root) x := by
  induction h with
  | start => exact ReflTransGen.refl
  | follow _ hinside href hpointer hfound ih =>
      exact (ih.trans (reaches_of_contains hinside)).tail (Reaches.target href hpointer hfound)

end Trails

/-- What stops the replacement of references is one that is refused: it is inside of the value at
the end of the chain that has led there. -/
theorem resolveAt_eq_error {fuel : Nat} {chain : List String} (hbound : Bounded root fuel chain)
    (htrail : Trail root chain (place, v)) (h : resolveAt root fuel chain place v = .error d) :
    ∃ chain' x y s e, Trail root chain' x ∧ ReflTransGen Contains x y ∧
      y.2.reference? = some s ∧ Refuses root chain' s e ∧ d = e.diagnostic y.1 := by
  induction fuel generalizing chain place v with
  | zero =>
      rw [resolveAt_eq_expand] at h
      obtain ⟨y, s, hinside, href, hfollow⟩ := expand_eq_error h
      rcases follow_eq_error hfollow with ⟨e, hrefuses, rfl⟩ | ⟨_, _, hnew, _⟩
      · exact ⟨chain, _, y, s, e, htrail, hinside, href, hrefuses, rfl⟩
      · -- The chain holds all references of the document already.
        exact absurd (hbound.mem_of_zero (htrail.all_subset (all_subset_of_contains hinside
          (Subset.mem_all_of_reference? href)))) hnew
  | succ fuel ih =>
      rw [resolveAt_eq_expand] at h
      obtain ⟨y, s, hinside, href, hfollow⟩ := expand_eq_error h
      rcases follow_eq_error hfollow with ⟨e, hrefuses, rfl⟩ | ⟨pointer, target, hnew, hpointer,
        htarget, hinner⟩
      · exact ⟨chain, _, y, s, e, htrail, hinside, href, hrefuses, rfl⟩
      · have hall := htrail.all_subset (all_subset_of_contains hinside
          (Subset.mem_all_of_reference? href))
        exact ih (hbound.append hall hnew) (htrail.follow hinside href hpointer htarget) hinner

theorem exists_trail_of_error (h : resolve root = .error d) :
    ∃ chain x y s e, Trail root chain x ∧ ReflTransGen Contains x y ∧
      y.2.reference? = some s ∧ Refuses root chain s e ∧ d = e.diagnostic y.1 :=
  resolveAt_eq_error (bounded_start root) Trail.start h

/-- The reference that stops the replacement is one that the document leads to. -/
theorem resolve_eq_error (h : resolve root = .error d) :
    ∃ (e : ReferenceError) (x : Pointer × Json) (s : String),
      ReflTransGen (Reaches root) ("", root) x ∧ x.2.reference? = some s ∧ e.refused? = some s ∧
        d = e.diagnostic x.1 := by
  obtain ⟨chain, x, y, s, e, htrail, hinside, href, hrefuses, rfl⟩ := exists_trail_of_error h
  exact ⟨e, y, s, htrail.reaches.trans (reaches_of_contains hinside), href, hrefuses.refused?, rfl⟩

end Reference

end ApiScreens
