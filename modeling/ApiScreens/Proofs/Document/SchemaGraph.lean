import ApiScreens.Proofs.Document.Rules
import ApiScreens.Proofs.Json.Tree

/-!
# Schemas that a schema leads to

A schema that is a reference leads to its target, which stands at the pointer of the reference; any
other leads to the schema of its items and to those of its properties, which stand below it. A
schema shows the combining keywords that it has. Nothing is shown by any schema that a schema leads
to exactly if the schema keeps the rules.
-/

namespace ApiScreens.Subset

open Json (Members Pointer isLocalReference referencePointer?)
open Relation (ReflTransGen)

/-- The schema that a schema at a pointer leads to, and the pointer at which it stands. -/
inductive Leads (root : Json) : Pointer × Json → Pointer × Json → Prop
  | reference {place pointer : Pointer} {v target : Json} {s : String}
      (reference : v.reference? = some s) (here : isLocalReference s = true)
      (written : referencePointer? s = some pointer) (found : root.target? s = some target) :
      Leads root (place, v) (pointer, target)
  | items {place : Pointer} {v w : Json} (plain : v.reference? = none)
      (found : v.get? "items" = some w) : Leads root (place, v) (Pointer.push place "items", w)
  | property {place : Pointer} {v : Json} {members : Members} {m : String × Json}
      (plain : v.reference? = none) (found : v.get? "properties" = some (.object members))
      (mem : m ∈ members) :
      Leads root (place, v) (Pointer.push (Pointer.push place "properties") m.1, m.2)

/-- A schema that is no reference shows each combining keyword that it has. -/
def Shows (x : Pointer × Json) (d : Diagnostic) : Prop :=
  x.2.reference? = none ∧ ∃ k ∈ compositionKeywords, (x.2.get? k).isSome = true ∧
    d = (Violation.composition k).diagnostic (Pointer.push x.1 k)

/-- What is shown by a schema or by one that it leads to. -/
def Finds (root : Json) (x : Pointer × Json) (d : Diagnostic) : Prop :=
  ∃ y, ReflTransGen (Leads root) x y ∧ Shows y d

theorem Shows.finds {root : Json} {x : Pointer × Json} {d : Diagnostic} (h : Shows x d) :
    Finds root x d :=
  ⟨x, ReflTransGen.refl, h⟩

theorem Finds.of_leads {root : Json} {x y : Pointer × Json} {d : Diagnostic} (h : Finds root y d)
    (hleads : Leads root x y) : Finds root x d := by
  obtain ⟨z, hsteps, hshows⟩ := h
  exact ⟨z, hsteps.head hleads, hshows⟩

section Parts

/-- The schemas inside a schema, in the order in which they are scanned. -/
def parts (x : Pointer × Json) : List (Pointer × Json) :=
  (x.2.get? "items").toList.map (fun w => (Pointer.push x.1 "items", w)) ++
    (((x.2.get? "properties").bind Json.members?).getD []).map fun m =>
      (Pointer.push (Pointer.push x.1 "properties") m.1, m.2)

theorem mem_parts_iff {x y : Pointer × Json} : y ∈ parts x ↔
    (∃ w, x.2.get? "items" = some w ∧ y = (Pointer.push x.1 "items", w)) ∨
      ∃ members, x.2.get? "properties" = some (.object members) ∧ ∃ m ∈ members,
        y = (Pointer.push (Pointer.push x.1 "properties") m.1, m.2) := by
  have hproperties (m : String × Json) :
      m ∈ ((x.2.get? "properties").bind Json.members?).getD [] ↔
        ∃ members, x.2.get? "properties" = some (.object members) ∧ m ∈ members := by
    cases x.2.get? "properties" with
    | none => simp
    | some properties => cases properties <;> simp [Json.members?]
  rw [parts, List.mem_append]
  apply or_congr
  · simp [eq_comm]
  · simp only [List.mem_map, hproperties]
    constructor
    · rintro ⟨m, ⟨members, hmembers, hm⟩, rfl⟩
      exact ⟨members, hmembers, m, hm, rfl⟩
    · rintro ⟨members, hmembers, m, hm, rfl⟩
      exact ⟨m, ⟨members, hmembers, hm⟩, rfl⟩

/-- A schema that is no reference leads to the schemas inside it. -/
theorem leads_iff_mem_parts {root : Json} {x y : Pointer × Json} (hplain : x.2.reference? = none) :
    Leads root x y ↔ y ∈ parts x := by
  rw [mem_parts_iff]
  constructor
  · intro h
    cases h with
    | reference href =>
        rw [hplain] at href
        contradiction
    | items _ hfound => exact Or.inl ⟨_, hfound, rfl⟩
    | property _ hfound hm => exact Or.inr ⟨_, hfound, _, hm, rfl⟩
  · rintro (⟨w, hw, rfl⟩ | ⟨members, hmembers, m, hm, rfl⟩)
    · exact Leads.items hplain hw
    · exact Leads.property hplain hmembers hm

theorem sizeOf_lt_of_mem_parts {x y : Pointer × Json} (h : y ∈ parts x) :
    sizeOf y.2 < sizeOf x.2 := by
  rcases mem_parts_iff.mp h with ⟨w, hw, rfl⟩ | ⟨members, hmembers, m, hm, rfl⟩
  · exact Json.sizeOf_get?_lt hw
  · exact Nat.lt_trans (@Json.sizeOf_lt_of_mem members m hm) (Json.sizeOf_get?_lt hmembers)

/-- What holds of a schema whenever it holds of the schemas inside it holds of every schema. -/
theorem induction_on_parts {P : Pointer × Json → Prop} (h : ∀ x, (∀ y ∈ parts x, P y) → P x)
    (x : Pointer × Json) : P x := by
  induction hsize : sizeOf x.2 using Nat.strongRecOn generalizing x with
  | _ n ih =>
      apply h
      intro y hy
      exact ih _ (hsize ▸ sizeOf_lt_of_mem_parts hy) y rfl

end Parts

section Keeping

variable {root v : Json}

theorem Denotes.plain {v w : Json} (h : Denotes root v w) : w.reference? = none := by
  induction h with
  | self hplain => exact hplain
  | reference _ _ _ _ ih => exact ih

theorem keeps_target {s : String} {target : Json} (href : v.reference? = some s)
    (hlocal : isLocalReference s = true) (hfound : root.target? s = some target)
    (h : Keeps (asValidated root) .schema v) : Keeps (asValidated root) .schema target :=
  keeps_iff.mpr fun u hu => keeps_iff.mp h u (Denotes.reference href hlocal hfound hu)

theorem keeps_items {w : Json} (hplain : v.reference? = none)
    (h : Keeps (asValidated root) .schema v) (hw : v.get? "items" = some w) :
    Keeps (asValidated root) .schema w :=
  (keeps_iff.mp h v (Denotes.self hplain)).2.1 _ _ _ Position.Field.items hw

theorem keeps_property {members : Members} (hplain : v.reference? = none)
    (h : Keeps (asValidated root) .schema v)
    (hmembers : v.get? "properties" = some (.object members)) {m : String × Json}
    (hm : m ∈ members) : Keeps (asValidated root) .schema m.2 := by
  have hproperties :=
    (keeps_iff.mp h v (Denotes.self hplain)).2.1 _ _ _ Position.Field.properties hmembers
  exact (keeps_iff.mp hproperties _ rfl).2.2 _ _ _ _ rfl (Position.Entry.property m.1) hm

theorem Leads.keeps {x y : Pointer × Json} (h : Leads root x y)
    (hx : Keeps (asValidated root) .schema x.2) : Keeps (asValidated root) .schema y.2 := by
  cases h with
  | reference href hlocal _ hfound => exact keeps_target href hlocal hfound hx
  | items hplain hfound => exact keeps_items hplain hx hfound
  | @property _ _ _ m hplain hfound hm => exact @keeps_property root _ _ hplain hx hfound m hm

theorem keeps_of_leads {x y : Pointer × Json} (h : ReflTransGen (Leads root) x y)
    (hx : Keeps (asValidated root) .schema x.2) : Keeps (asValidated root) .schema y.2 := by
  induction h with
  | refl => exact hx
  | tail _ hleads ih => exact hleads.keeps ih

/-- What a schema at some pointer leads to, seen as the rules lead to it. -/
def LedTo (root : Json) (start : Pointer × Json) : Position → Json → Prop
  | .schema, v => ∃ place, ReflTransGen (Leads root) start (place, v)
  | .properties, v => ∃ place u, ReflTransGen (Leads root) start (place, u) ∧
      u.reference? = none ∧ u.get? "properties" = some v
  | _, _ => False

variable {start : Pointer × Json}

theorem LedTo.denotes {w : Json} (h : LedTo root start .schema v) (hw : Denotes root v w) :
    LedTo root start .schema w := by
  induction hw with
  | self _ => exact h
  | reference href hlocal hfound _ ih =>
      obtain ⟨place, hsteps⟩ := h
      obtain ⟨pointer, hpointer, _⟩ := Option.bind_eq_some_iff.mp hfound
      exact ih ⟨pointer, hsteps.tail (Leads.reference href hlocal hpointer hfound)⟩

theorem LedTo.step {p q : Position} {w : Json} (hstep : Step (asValidated root) (p, v) (q, w))
    (h : LedTo root start p v) : LedTo root start q w := by
  cases hstep with
  | field henter hfound hfield =>
      cases hfield <;> try contradiction
      all_goals
        have hplain := Denotes.plain henter
        obtain ⟨place, hsteps⟩ := LedTo.denotes h henter
      · exact ⟨_, hsteps.tail (Leads.items hplain hfound)⟩
      · exact ⟨place, _, hsteps, hplain, hfound⟩
  | entry henter hmem hentry =>
      cases hentry with
      | path path => contradiction
      | property name =>
          obtain ⟨place, u, hsteps, hplain, hfound⟩ := h
          obtain rfl := henter
          exact ⟨_, hsteps.tail (Leads.property hplain hfound hmem)⟩

theorem ledTo_of_steps {q : Position} {w : Json}
    (h : ReflTransGen (Step (asValidated root)) (.schema, start.2) (q, w)) :
    LedTo root start q w := by
  have hall (x : Position × Json)
      (hx : ReflTransGen (Step (asValidated root)) (.schema, start.2) x) :
      LedTo root start x.1 x.2 := by
    induction hx with
    | refl => exact ⟨start.1, ReflTransGen.refl⟩
    | tail _ hstep ih => exact LedTo.step hstep ih
  exact hall (q, w) h

/-- A schema keeps the rules exactly if nothing is shown by what it leads to. -/
theorem keeps_schema_iff (start : Pointer × Json) :
    Keeps (asValidated root) .schema start.2 ↔ ∀ d, ¬ Finds root start d := by
  constructor
  · rintro h d ⟨y, hsteps, hplain, k, hk, hsome, _⟩
    have hkeeps := keeps_of_leads hsteps h
    have hnone := (keeps_iff.mp hkeeps y.2 (Denotes.self hplain)).1 k hk
    rw [hnone] at hsome
    contradiction
  · intro h q w u hsteps hu
    have hled := ledTo_of_steps hsteps
    cases q with
    | schema =>
        obtain ⟨place, hsteps⟩ := LedTo.denotes hled hu
        intro k hk
        by_contra hsome
        exact h _ ⟨(place, u), hsteps, Denotes.plain hu, k, hk, Option.isSome_iff_ne_none.mpr hsome,
          rfl⟩
    | properties => trivial
    | _ => contradiction

end Keeping

end ApiScreens.Subset
