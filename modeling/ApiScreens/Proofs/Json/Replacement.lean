import ApiScreens.Json.Pointer
import ApiScreens.Proofs.Json.Tree
import Mathlib.Data.List.Forall2

/-!
# Replacing a node of a value

A node of a value stands at a place, which says hop by hop how to come down to it. The tokens of a
pointer walk to a place. When the node at a place is replaced, a walk that does not go on below that
place ends at the same node as before or at one in which the node is replaced.
-/

namespace ApiScreens

namespace Keyed

variable {α β : Type}

/-- Changes the first value under a key. -/
def modify (key : String) (f : α → α) : Keyed α → Keyed α
  | [] => []
  | (k, v) :: rest => if k = key then (k, f v) :: rest else (k, v) :: modify key f rest

theorem get?_cons (k key : String) (v : α) (rest : Keyed α) :
    get? ((k, v) :: rest) key = if k = key then some v else get? rest key := by
  by_cases h : k = key <;> simp [get?, h]

theorem get?_modify (key key' : String) (f : α → α) (entries : Keyed α) :
    (modify key f entries).get? key' =
      if key' = key then (entries.get? key').map f else entries.get? key' := by
  induction entries with
  | nil => simp [modify, get?]
  | cons e rest ih =>
      obtain ⟨k, v⟩ := e
      rw [modify]
      split
      · rename_i hk
        rw [get?_cons, get?_cons, hk]
        by_cases hkey : key = key'
        · simp [hkey]
        · simp [hkey, Ne.symm hkey]
      · rename_i hk
        rw [get?_cons, get?_cons, ih]
        by_cases hkey : k = key'
        · simp [hkey, hkey ▸ hk]
        · simp [hkey]

theorem forall₂_modify {R S : String × α → β → Prop} {entries : Keyed α} {l : List β}
    {key : String} {f : α → α} (h : List.Forall₂ R entries l)
    (hfirst : ∀ v b, entries.get? key = some v → R (key, v) b → S (key, f v) b)
    (hothers : ∀ e b, R e b → S e b) : List.Forall₂ S (modify key f entries) l := by
  induction h with
  | nil => exact List.Forall₂.nil
  | @cons e b rest l he hrest ih =>
      obtain ⟨k, v⟩ := e
      rw [modify]
      split
      · rename_i hk
        subst hk
        exact List.Forall₂.cons (hfirst v b (by simp [get?_cons]) he) (hrest.imp hothers)
      · rename_i hk
        refine List.Forall₂.cons (hothers _ _ he) (ih fun v b hv => hfirst v b ?_)
        rw [get?_cons, if_neg hk, hv]

end Keyed

theorem forall₂_modify {α β : Type} {R S : α → β → Prop} {items : List α} {l : List β} {i : Nat}
    {f : α → α} (h : List.Forall₂ R items l)
    (hplace : ∀ a b, items[i]? = some a → R a b → S (f a) b) (hothers : ∀ a b, R a b → S a b) :
    List.Forall₂ S (items.modify i f) l := by
  induction h generalizing i with
  | nil => simp
  | @cons a b rest l hab hrest ih =>
      cases i with
      | zero => exact List.Forall₂.cons (hplace a b rfl hab) (hrest.imp hothers)
      | succ i => exact List.Forall₂.cons (hothers a b hab) (ih fun a b ha => hplace a b ha)

namespace Json

/-- A hop from a value down to one of its parts. -/
inductive Hop where
  | member (key : String)
  | item (index : Nat)
deriving DecidableEq

/-- The way from a value down to one of its nodes. -/
abbrev Place := List Hop

/-- The part that a hop leads to. -/
def part? : Json → Hop → Option Json
  | object members, .member key => Keyed.get? members key
  | array items, .item i => items[i]?
  | _, _ => none

/-- The node at a place. -/
def at? (v : Json) (place : Place) : Option Json := place.foldlM part? v

/-- The value with the node at a place replaced. -/
def replaceAt : Json → Place → Json → Json
  | _, [], w => w
  | object members, .member key :: rest, w =>
    object (Keyed.modify key (fun u => u.replaceAt rest w) members)
  | array items, .item i :: rest, w => array (items.modify i fun u => u.replaceAt rest w)
  | v, _ :: _, _ => v

/-- The hop that a token takes in a value. -/
def hop? : Json → String → Option Hop
  | object _, token => some (.member token)
  | array _, token => (Pointer.index? token).map .item
  | _, _ => none

/-- The place that tokens walk to. -/
def walk? : Json → List String → Option Place
  | _, [] => some []
  | v, token :: rest =>
    (v.hop? token).bind fun hop => (v.part? hop).bind fun u => (u.walk? rest).map (hop :: ·)

/-- The place of the node that a reference names. -/
def placeOf? (root : Json) (reference : String) : Option Place :=
  (referencePointer? reference).bind fun pointer => pointer.tokens?.bind root.walk?

section Walks

variable {v u node : Json} {rest : Place}

theorem at?_cons (v : Json) (hop : Hop) (rest : Place) :
    v.at? (hop :: rest) = (v.part? hop).bind (·.at? rest) := rfl

theorem descend?_cons (v : Json) (token : String) (rest : List String) :
    v.descend? (token :: rest) = (v.child? token).bind (·.descend? rest) := rfl

theorem child?_eq (v : Json) (token : String) : v.child? token = (v.hop? token).bind v.part? := by
  cases v with
  | array items => cases h : Pointer.index? token <;> simp [child?, hop?, part?, h]
  | _ => rfl

theorem replaceAt_nil (v w : Json) : v.replaceAt [] w = w := by
  cases v <;> rfl

/-- The node that tokens lead to is the one at the place that they walk to. -/
theorem descend?_eq (v : Json) (tokens : List String) :
    v.descend? tokens = (v.walk? tokens).bind v.at? := by
  induction tokens generalizing v with
  | nil => rfl
  | cons token rest ih =>
      rw [descend?_cons, child?_eq, walk?]
      cases v.hop? token with
      | none => rfl
      | some hop =>
          rw [Option.bind_some, Option.bind_some]
          cases hpart : v.part? hop with
          | none => rfl
          | some u =>
              rw [Option.bind_some, Option.bind_some, ih, Option.bind_map]
              congr 1
              funext place
              rw [Function.comp_apply, at?_cons, hpart, Option.bind_some]

/-- Replacing below a hop replaces in the part that the hop leads to. -/
theorem part?_replaceAt (v w : Json) (hop hop' : Hop) (rest : Place) :
    (v.replaceAt (hop :: rest) w).part? hop' =
      if hop' = hop then (v.part? hop').map (·.replaceAt rest w) else v.part? hop' := by
  cases v with
  | object members =>
      cases hop with
      | item i => cases hop' <;> simp [replaceAt, part?]
      | member key =>
          cases hop' with
          | item j => simp [replaceAt, part?]
          | member key' => simp only [replaceAt, part?, Keyed.get?_modify, Hop.member.injEq]
  | array items =>
      cases hop with
      | member key => cases hop' <;> simp [replaceAt, part?]
      | item i =>
          cases hop' with
          | member key => simp [replaceAt, part?]
          | item j =>
              simp only [replaceAt, part?, List.getElem?_modify, Hop.item.injEq, eq_comm (a := j)]
              split <;> simp
  | _ => cases hop <;> cases hop' <;> simp [replaceAt, part?]

theorem hop?_replaceAt (v w : Json) (hop : Hop) (rest : Place) (token : String) :
    (v.replaceAt (hop :: rest) w).hop? token = v.hop? token := by
  cases v <;> cases hop <;> rfl

/-- A value that is left, or in which the node is replaced to which the end of a place leads. -/
def Replaced (place : Place) (node w v v' : Json) : Prop :=
  v' = v ∨ ∃ rest, rest <:+ place ∧ v.at? rest = some node ∧ v' = v.replaceAt rest w

theorem Replaced.self (place : Place) (node w v : Json) : Replaced place node w v v :=
  Or.inl rfl

/-- A value that is left or in which a node below it is replaced. -/
def ReplacedBelow (place : Place) (node w v v' : Json) : Prop :=
  v' = v ∨ ∃ hop rest, hop :: rest <:+ place ∧ v.at? (hop :: rest) = some node ∧
    v' = v.replaceAt (hop :: rest) w

theorem Replaced.self_or_below {place : Place} {node w v v' : Json}
    (h : Replaced place node w v v') : v = node ∧ v' = w ∨ ReplacedBelow place node w v v' := by
  rcases h with rfl | ⟨rest, hrest, hnode, rfl⟩
  · exact Or.inr (Or.inl rfl)
  · cases rest with
    | nil => exact Or.inl ⟨Option.some.inj hnode, replaceAt_nil v w⟩
    | cons hop rest => exact Or.inr (Or.inr ⟨hop, rest, hrest, hnode, rfl⟩)

/-- A walk that does not go on below the replaced node comes to a node that is left or in which that
node is replaced. -/
theorem exists_descend?_replaceAt {place : Place} {tokens : List String} (hrest : rest <:+ place)
    (hnode : v.at? rest = some node) (hdescend : v.descend? tokens = some u)
    (hbelow : ∀ p, v.walk? tokens = some p → rest <+: p → p = rest) (w : Json) :
    ∃ u', (v.replaceAt rest w).descend? tokens = some u' ∧ Replaced place node w u u' := by
  induction tokens generalizing v rest with
  | nil =>
      obtain rfl := Option.some.inj hdescend
      exact ⟨_, rfl, Or.inr ⟨rest, hrest, hnode, rfl⟩⟩
  | cons token tokens ih =>
      rw [descend?_cons, child?_eq] at hdescend
      obtain ⟨c, hchild, hdescend⟩ := Option.bind_eq_some_iff.mp hdescend
      obtain ⟨hop, hhop, hpart⟩ := Option.bind_eq_some_iff.mp hchild
      have hwalked (p : Place) (hp : c.walk? tokens = some p) :
          v.walk? (token :: tokens) = some (hop :: p) := by
        simp [walk?, hhop, hpart, hp]
      cases rest with
      | nil =>
          -- The walk would go on below the node.
          rw [descend?_eq] at hdescend
          obtain ⟨p, hp, _⟩ := Option.bind_eq_some_iff.mp hdescend
          have hnil := hbelow _ (hwalked p hp) List.nil_prefix
          contradiction
      | cons hop' rest =>
          rw [descend?_cons, child?_eq, hop?_replaceAt, hhop, Option.bind_some, part?_replaceAt]
          by_cases hsame : hop = hop'
          · subst hsame
            rw [at?_cons, hpart] at hnode
            rw [if_pos rfl, hpart]
            apply ih ((List.suffix_cons hop rest).trans hrest) hnode hdescend
            intro p hp hprefix
            have heq := hbelow _ (hwalked p hp) (List.cons_prefix_cons.mpr ⟨rfl, hprefix⟩)
            exact (List.cons.inj heq).2
          · rw [if_neg hsame, hpart]
            exact ⟨u, hdescend, Replaced.self place node w u⟩

/-- A reference that does not lead below the replaced node names a node that is left or in which
that node is replaced. -/
theorem exists_target?_replaceAt {root : Json} {place : Place} {reference : String}
    (hnode : root.at? place = some node) (htarget : root.target? reference = some u)
    (hbelow : ∀ p, root.placeOf? reference = some p → place <+: p → p = place) (w : Json) :
    ∃ u', (root.replaceAt place w).target? reference = some u' ∧ Replaced place node w u u' := by
  obtain ⟨pointer, hpointer, hlookup⟩ := Option.bind_eq_some_iff.mp htarget
  obtain ⟨tokens, htokens, hdescend⟩ := Option.bind_eq_some_iff.mp hlookup
  have hplaceOf : root.placeOf? reference = root.walk? tokens := by
    simp [placeOf?, hpointer, htokens]
  rw [hplaceOf] at hbelow
  obtain ⟨u', hu', hreplaced⟩ :=
    exists_descend?_replaceAt List.suffix_rfl hnode hdescend hbelow w
  refine ⟨u', ?_, hreplaced⟩
  simp [target?, lookup?, hpointer, htokens, hu']

end Walks

section Below

variable {place : Place} {node w v v' : Json}

theorem ReplacedBelow.eq_of_partless (h : ReplacedBelow place node w v v')
    (hpart : ∀ hop, v.part? hop = none) : v' = v := by
  rcases h with rfl | ⟨hop, rest, _, hnode, _⟩
  · rfl
  · rw [at?_cons, hpart] at hnode
    contradiction

theorem get?_eq_part? (v : Json) (key : String) : v.get? key = v.part? (.member key) := by
  cases v <;> rfl

theorem string?_replaceAt (v w : Json) (hop : Hop) (rest : Place) :
    (v.replaceAt (hop :: rest) w).string? = v.string? := by
  cases v <;> cases hop <;> rfl

/-- A replacement below a node leaves what it refers to, except where a string takes the place of
its member for references. -/
theorem ReplacedBelow.reference?_eq (h : ReplacedBelow place node w v v') {s : String}
    (hnode : node.reference? = some s) :
    v'.reference? = v.reference? ∨ v.get? "$ref" = some node ∧ (∃ t, w = .string t) ∧
      place.getLast? = some (.member "$ref") := by
  rcases h with rfl | ⟨hop, rest, hsuffix, hat, rfl⟩
  · exact Or.inl rfl
  · rw [reference?, reference?, get?_eq_part?, get?_eq_part?, part?_replaceAt]
    split
    · rename_i hhop
      subst hhop
      obtain ⟨u, hu, hat⟩ := Option.bind_eq_some_iff.mp hat
      rw [hu, Option.map_some, Option.bind_some, Option.bind_some]
      cases rest with
      | cons hop rest => exact Or.inl (string?_replaceAt u w hop rest)
      | nil =>
          obtain rfl := Option.some.inj hat
          have hplain : u.string? = none := by
            cases u with
            | object members => rfl
            | _ => contradiction
          rw [replaceAt_nil, hplain]
          cases w with
          | string t =>
              refine Or.inr ⟨rfl, ⟨t, rfl⟩, ?_⟩
              obtain ⟨before, rfl⟩ := hsuffix
              exact List.getLast?_concat
          | _ => exact Or.inl rfl
    · exact Or.inl rfl

/-- What holds of the items of an array, whatever is replaced in them, holds of the items after a
replacement below the array. -/
theorem ReplacedBelow.array {R : Json → Json → Prop} {items results : List Json}
    (h : ReplacedBelow place node w (.array items) v')
    (hitems : List.Forall₂ (fun v r => ∀ v', Replaced place node w v v' → R v' r) items results) :
    ∃ items', v' = .array items' ∧ List.Forall₂ R items' results := by
  have hself (v r : Json) (hv : ∀ v', Replaced place node w v v' → R v' r) : R v r :=
    hv v (Replaced.self place node w v)
  rcases h with rfl | ⟨hop, rest, hsuffix, hat, rfl⟩
  · exact ⟨items, rfl, hitems.imp hself⟩
  · obtain ⟨u, hu, hinner⟩ := Option.bind_eq_some_iff.mp hat
    cases hop with
    | member key => contradiction
    | item i =>
        refine ⟨_, rfl, forall₂_modify hitems ?_ hself⟩
        intro v r hv hall
        obtain rfl := Option.some.inj (hu.symm.trans hv)
        exact hall _ (Or.inr ⟨rest, (List.suffix_cons _ rest).trans hsuffix, hinner, rfl⟩)

/-- What holds of the members of an object, whatever is replaced in them, holds of the members after
a replacement below the object. -/
theorem ReplacedBelow.object {R : Json → Json → Prop} {members results : Members}
    (h : ReplacedBelow place node w (.object members) v')
    (hmembers : List.Forall₂
      (fun m n => m.1 = n.1 ∧ ∀ v', Replaced place node w m.2 v' → R v' n.2) members results) :
    ∃ members', v' = .object members' ∧
      List.Forall₂ (fun m n => m.1 = n.1 ∧ R m.2 n.2) members' results := by
  have hself (m n : String × Json)
      (hm : m.1 = n.1 ∧ ∀ v', Replaced place node w m.2 v' → R v' n.2) : m.1 = n.1 ∧ R m.2 n.2 :=
    ⟨hm.1, hm.2 m.2 (Replaced.self place node w m.2)⟩
  rcases h with rfl | ⟨hop, rest, hsuffix, hat, rfl⟩
  · exact ⟨members, rfl, hmembers.imp hself⟩
  · obtain ⟨u, hu, hinner⟩ := Option.bind_eq_some_iff.mp hat
    cases hop with
    | item i => contradiction
    | member key =>
        refine ⟨_, rfl, Keyed.forall₂_modify hmembers ?_ hself⟩
        intro v n hv hall
        obtain rfl := Option.some.inj (hu.symm.trans hv)
        exact ⟨hall.1,
          hall.2 _ (Or.inr ⟨rest, (List.suffix_cons _ rest).trans hsuffix, hinner, rfl⟩)⟩

end Below

end Json

end ApiScreens
