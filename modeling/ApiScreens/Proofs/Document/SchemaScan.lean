import ApiScreens.Proofs.Document.Resolution
import ApiScreens.Proofs.Document.SchemaGraph

/-!
# The scan of schemas is exact

A scan remembers the references that it has followed and follows none of them again. When it ends,
all is reported that is shown by the schema and by the targets of the references that it has
followed, and none of these leads to a reference that it has not followed. So it reports what the
schema leads to and nothing else, also where schemas refer to each other in a circle.
-/

namespace ApiScreens.Subset

open Json (Pointer isLocalReference referencePointer?)
open Reference (Bounded all)
open Relation (ReflTransGen)

section Walk

variable {follow : String → Scan → Scan} {place : Pointer} {v : Json}

theorem scanNode_reference {r : String} (href : v.reference? = some r) :
    scanNode follow place v = follow r := by
  funext s
  cases v with
  | object members => rw [scanNode, href]
  | _ => contradiction

theorem scanItems_eq (members : Json.Members) :
    scanItems follow place members = match Keyed.get? members "items" with
      | some v => scanNode follow (Pointer.push place "items") v
      | none => id := by
  induction members with
  | nil => rfl
  | cons m rest ih =>
      obtain ⟨k, v⟩ := m
      funext s
      by_cases hk : k = "items"
      · simp [scanItems, Keyed.get?, hk]
      · rw [scanItems, if_neg hk, ih]
        simp [Keyed.get?, hk]

theorem scanProperties_eq (members : Json.Members) :
    scanProperties follow place members = match Keyed.get? members "properties" with
      | some (.object properties) => scanEach follow (Pointer.push place "properties") properties
      | _ => id := by
  induction members with
  | nil => rfl
  | cons m rest ih =>
      obtain ⟨k, v⟩ := m
      funext s
      by_cases hk : k = "properties"
      · cases v <;> simp [scanProperties, Keyed.get?, hk]
      · have hrest : scanProperties follow place ((k, v) :: rest) s =
            scanProperties follow place rest s := by
          cases v <;> simp [scanProperties, hk]
        rw [hrest, ih]
        simp [Keyed.get?, hk]

theorem scanEach_eq_foldl (members : Json.Members) (s : Scan) :
    scanEach follow place members s =
      members.foldl (fun s m => scanNode follow (Pointer.push place m.1) m.2 s) s := by
  induction members generalizing s with
  | nil => rfl
  | cons m rest ih => rw [scanEach, ih, List.foldl_cons]

/-- Scans one schema after the other. -/
def scanAll (follow : String → Scan → Scan) (schemas : List (Pointer × Json)) (s : Scan) : Scan :=
  schemas.foldl (fun s y => scanNode follow y.1 y.2 s) s

/-- Adds the combining keywords of a schema. -/
def addShown (place : Pointer) (v : Json) (s : Scan) : Scan :=
  { s with found :=
      ((compositionKeywords.filter fun k => (v.get? k).isSome).map fun k =>
        (Violation.composition k).diagnostic (Pointer.push place k)).reverse ++ s.found }

theorem mem_addShown {d : Diagnostic} {s : Scan} (hplain : v.reference? = none) :
    d ∈ (addShown place v s).found ↔ Shows (place, v) d ∨ d ∈ s.found := by
  simp only [addShown, Shows, hplain, List.mem_append, List.mem_reverse, List.mem_map,
    List.mem_filter, and_assoc, true_and, eq_comm (a := d)]

/-- The scan of a schema that is no reference adds what the schema shows and scans the schemas
inside it. -/
theorem scanNode_plain (hplain : v.reference? = none) :
    scanNode follow place v = scanAll follow (parts (place, v)) ∘ addShown place v := by
  funext s
  cases v with
  | object members =>
      have hkeywords : s.addKeywords place members = addShown place (.object members) s := by
        have hhas : Keyed.has members = fun k => (Keyed.get? members k).isSome :=
          funext (Keyed.has_eq_isSome_get? members)
        rw [Scan.addKeywords, hhas]
        rfl
      have hget (key : String) : (Json.object members).get? key = Keyed.get? members key := rfl
      rw [scanNode, hplain, hkeywords, scanItems_eq, scanProperties_eq, Function.comp_apply,
        scanAll, parts, List.foldl_append, hget, hget]
      cases Keyed.get? members "items" <;>
        cases hproperties : Keyed.get? members "properties" with
        | none => rfl
        | some properties =>
            cases properties <;>
              simp [Json.members?, scanEach_eq_foldl, List.foldl_map]
  | _ => rfl

end Walk

/-- One state of a scan has all that another has. -/
structure Extends (s s' : Scan) : Prop where
  followed : s.followed ⊆ s'.followed
  found : s.found ⊆ s'.found

theorem Extends.refl (s : Scan) : Extends s s :=
  ⟨List.Subset.refl _, List.Subset.refl _⟩

theorem Extends.trans {s s' s'' : Scan} (h : Extends s s') (h' : Extends s' s'') :
    Extends s s'' :=
  ⟨List.Subset.trans h.followed h'.followed, List.Subset.trans h.found h'.found⟩

/-- A schema scanned up to its references, which are among the ones followed. -/
inductive Covered (s : Scan) : Pointer × Json → Prop
  | reference {x : Pointer × Json} {r : String} (reference : x.2.reference? = some r)
      (mem : isLocalReference r = true → r ∈ s.followed) : Covered s x
  | plain {x : Pointer × Json} (plain : x.2.reference? = none)
      (shown : ∀ d, Shows x d → d ∈ s.found) (inner : ∀ y ∈ parts x, Covered s y) : Covered s x

theorem Covered.mono {s s' : Scan} {x : Pointer × Json} (h : Covered s x) (hext : Extends s s') :
    Covered s' x := by
  induction h with
  | reference href hmem => exact Covered.reference href fun hlocal => hext.followed (hmem hlocal)
  | plain hplain hshown _ ih =>
      exact Covered.plain hplain (fun d hd => hext.found (hshown d hd)) ih

/-- The targets of the references followed since are covered. -/
def Settled (root : Json) (before : List String) (s : Scan) : Prop :=
  ∀ r ∈ s.followed, r ∉ before → ∀ pointer target, referencePointer? r = some pointer →
    root.target? r = some target → Covered s (pointer, target)

theorem settled_self (root : Json) (s : Scan) : Settled root s.followed s :=
  fun _ hr hnew => absurd hr hnew

theorem Settled.trans {root : Json} {before : List String} {s s' : Scan}
    (h : Settled root before s) (h' : Settled root s.followed s') (hext : Extends s s') :
    Settled root before s' := by
  intro r hr hnew pointer target hpointer htarget
  by_cases hs : r ∈ s.followed
  · exact (h r hs hnew pointer target hpointer htarget).mono hext
  · exact h' r hr hs pointer target hpointer htarget

section Covering

variable {root : Json} {s : Scan} {x y : Pointer × Json}

/-- Once the targets of all references followed are covered, what a covered schema leads to is
covered. -/
theorem Covered.leads (hsettled : Settled root [] s) (h : Covered s x) (hleads : Leads root x y) :
    Covered s y := by
  cases h with
  | reference href hmem =>
      cases hleads with
      | reference href' hlocal hpointer hfound =>
          rw [href] at href'
          obtain rfl := Option.some.inj href'
          exact hsettled _ (hmem hlocal) List.not_mem_nil _ _ hpointer hfound
      | items hplain => rw [href] at hplain; contradiction
      | property hplain => rw [href] at hplain; contradiction
  | plain hplain _ hinner => exact hinner y ((leads_iff_mem_parts hplain).mp hleads)

/-- What a covered schema shows has been reported. -/
theorem Covered.mem_found {d : Diagnostic} (h : Covered s x) (hshows : Shows x d) :
    d ∈ s.found := by
  cases h with
  | reference href =>
      rw [hshows.1] at href
      contradiction
  | plain _ hshown => exact hshown d hshows

theorem mem_found_of_finds {d : Diagnostic} (hsettled : Settled root [] s) (h : Covered s x)
    (hfinds : Finds root x d) : d ∈ s.found := by
  obtain ⟨y, hsteps, hshows⟩ := hfinds
  have hcovered : Covered s y := by
    clear hshows
    induction hsteps with
    | refl => exact h
    | tail _ hleads ih => exact ih.leads hsettled hleads
  exact hcovered.mem_found hshows

end Covering

/-- What a scan does: it keeps within the bound and forgets nothing; in the end what was to see is
covered, and so are the targets of the references followed on the way; and it reports nothing but
what was to find. -/
structure ScansTo (root : Json) (fuel : Nat) (covers : Scan → Prop) (finds : Diagnostic → Prop)
    (s s' : Scan) : Prop where
  bounded : Bounded root fuel s'.followed
  kept : Extends s s'
  covered : covers s'
  settled : Settled root s.followed s'
  sound : ∀ d ∈ s'.found, d ∈ s.found ∨ finds d

/-- What a scan does from any state in which the references followed are within the bound. -/
def Scans (root : Json) (fuel : Nat) (covers : Scan → Prop) (finds : Diagnostic → Prop)
    (scan : Scan → Scan) : Prop :=
  ∀ s, Bounded root fuel s.followed → ScansTo root fuel covers finds s (scan s)

section Composition

variable {root : Json} {fuel : Nat} {covers covers' : Scan → Prop}
  {finds finds' : Diagnostic → Prop} {scan scan' : Scan → Scan}

theorem Scans.imp (h : Scans root fuel covers finds scan) (hcovers : ∀ s, covers s → covers' s)
    (hfinds : ∀ d, finds d → finds' d) : Scans root fuel covers' finds' scan := by
  intro s hs
  obtain ⟨hbounded, hkept, hcovered, hsettled, hsound⟩ := h s hs
  exact ⟨hbounded, hkept, hcovers _ hcovered, hsettled,
    fun d hd => (hsound d hd).imp_right (hfinds d)⟩

theorem scansTo_self {s : Scan} (h : Bounded root fuel s.followed) (hcovers : covers s) :
    ScansTo root fuel covers finds s s where
  bounded := h
  kept := Extends.refl s
  covered := hcovers
  settled := settled_self root s
  sound _ hd := Or.inl hd

/-- One scan after the other covers and finds what both do. -/
theorem Scans.comp (h : Scans root fuel covers finds scan)
    (h' : Scans root fuel covers' finds' scan')
    (hmono : ∀ s s', Extends s s' → covers s → covers s') :
    Scans root fuel (fun s => covers s ∧ covers' s) (fun d => finds d ∨ finds' d)
      (scan' ∘ scan) := by
  intro s hs
  obtain ⟨hbounded, hkept, hcovered, hsettled, hsound⟩ := h s hs
  obtain ⟨hbounded', hkept', hcovered', hsettled', hsound'⟩ := h' _ hbounded
  constructor
  case bounded => exact hbounded'
  case kept => exact hkept.trans hkept'
  case covered => exact ⟨hmono _ _ hkept' hcovered, hcovered'⟩
  case settled => exact hsettled.trans hsettled' hkept'
  case sound =>
    intro d hd
    rcases hsound' d hd with hd | hd
    · exact (hsound d hd).imp_right Or.inl
    · exact Or.inr (Or.inr hd)

end Composition

section Nodes

variable {root : Json} {fuel : Nat} {follow : String → Scan → Scan}

/-- The scan of a schema covers the schema and finds what it leads to. -/
def ScansNode (root : Json) (fuel : Nat) (follow : String → Scan → Scan) (x : Pointer × Json) :
    Prop :=
  Scans root fuel (fun s => Covered s x) (Finds root x) (scanNode follow x.1 x.2)

/-- What is found behind a reference that is followed. -/
def FindsBehind (root : Json) (r : String) (d : Diagnostic) : Prop :=
  isLocalReference r = true ∧ ∃ pointer target, referencePointer? r = some pointer ∧
    root.target? r = some target ∧ Finds root (pointer, target) d

/-- A scan that follows a reference: it sees the reference and finds what is behind it. -/
def Follows (root : Json) (fuel : Nat) (r : String) (scan : Scan → Scan) : Prop :=
  Scans root fuel (fun s => isLocalReference r = true → r ∈ s.followed) (FindsBehind root r) scan

theorem scans_addShown {place : Pointer} {v : Json} (hplain : v.reference? = none) :
    Scans root fuel (fun s => ∀ d, Shows (place, v) d → d ∈ s.found) (Shows (place, v))
      (addShown place v) := by
  intro s hs
  constructor
  case bounded => exact hs
  case kept => exact ⟨List.Subset.refl _, List.subset_append_right _ _⟩
  case covered => exact fun d hd => (mem_addShown hplain).mpr (Or.inl hd)
  case settled => exact fun _ hr hnew => absurd hr hnew
  case sound => exact fun d hd => ((mem_addShown hplain).mp hd).symm

theorem scans_all {schemas : List (Pointer × Json)}
    (h : ∀ y ∈ schemas, ScansNode root fuel follow y) :
    Scans root fuel (fun s => ∀ y ∈ schemas, Covered s y) (fun d => ∃ y ∈ schemas, Finds root y d)
      (scanAll follow schemas) := by
  induction schemas with
  | nil => exact fun _ hs => scansTo_self hs (List.forall_mem_nil _)
  | cons y rest ih =>
      rw [List.forall_mem_cons] at h
      have hboth := h.1.comp (ih h.2) fun _ _ hext hcovered => hcovered.mono hext
      apply Scans.imp hboth
      · intro s hs
        exact List.forall_mem_cons.mpr hs
      · rintro d (hd | ⟨z, hz, hd⟩)
        · exact ⟨y, List.mem_cons_self, hd⟩
        · exact ⟨z, List.mem_cons_of_mem _ hz, hd⟩

theorem scansNode_of_reference {x : Pointer × Json} {r : String} (href : x.2.reference? = some r)
    (hfollow : Follows root fuel r (follow r)) : ScansNode root fuel follow x := by
  rw [ScansNode, scanNode_reference href]
  apply hfollow.imp
  · intro s hs
    exact Covered.reference href hs
  · rintro d ⟨hlocal, pointer, target, hpointer, hfound, hfinds⟩
    exact hfinds.of_leads (Leads.reference href hlocal hpointer hfound)

theorem scansNode_of_plain {x : Pointer × Json} (hplain : x.2.reference? = none)
    (hparts : ∀ y ∈ parts x, ScansNode root fuel follow y) : ScansNode root fuel follow x := by
  rw [ScansNode, scanNode_plain hplain]
  have hboth := (@scans_addShown root fuel x.1 x.2 hplain).comp (scans_all hparts)
    fun _ _ hext hshown d hd => hext.found (hshown d hd)
  apply hboth.imp
  · intro s hs
    exact Covered.plain hplain hs.1 hs.2
  · rintro d (hd | ⟨y, hy, hd⟩)
    · exact hd.finds
    · exact hd.of_leads ((leads_iff_mem_parts hplain).mpr hy)

theorem mem_all_of_reference? {v : Json} {r : String} (h : v.reference? = some r) : r ∈ all v := by
  cases v with
  | object members => exact Reference.mem_all_object.mpr (Or.inl h)
  | _ => contradiction

theorem all_subset_of_get? {v w : Json} {key : String} (h : v.get? key = some w) :
    all w ⊆ all v := by
  cases v with
  | object members =>
      have hchild : (Json.object members).child? key = some w := h
      exact Reference.all_subset_of_child? hchild
  | _ => contradiction

theorem all_subset_of_mem_parts {x y : Pointer × Json} (h : y ∈ parts x) : all y.2 ⊆ all x.2 := by
  rcases mem_parts_iff.mp h with ⟨w, hw, rfl⟩ | ⟨members, hmembers, m, hm, rfl⟩
  · exact all_subset_of_get? hw
  · intro r hr
    exact all_subset_of_get? hmembers (Reference.mem_all_object.mpr (Or.inr ⟨m, hm, hr⟩))

/-- The scan of a schema is right if it follows the references of the document rightly. -/
theorem scansNode_of_follow (hfollow : ∀ r ∈ all root, Follows root fuel r (follow r))
    (x : Pointer × Json) (hx : all x.2 ⊆ all root) : ScansNode root fuel follow x := by
  induction x using induction_on_parts with
  | h x ih =>
      cases href : x.2.reference? with
      | some r => exact scansNode_of_reference href (hfollow r (hx (mem_all_of_reference? href)))
      | none =>
          exact scansNode_of_plain href fun y hy =>
            ih y hy (List.Subset.trans (all_subset_of_mem_parts hy) hx)

/-- Two scans of a schema agree if they follow the references of the document alike. -/
theorem scanNode_congr {follow' : String → Scan → Scan}
    (hfollow : ∀ r ∈ all root, Follows root fuel r (follow r))
    (halike : ∀ r ∈ all root, ∀ s, Bounded root fuel s.followed → follow' r s = follow r s)
    (x : Pointer × Json) (hx : all x.2 ⊆ all root) {s : Scan} (hs : Bounded root fuel s.followed) :
    scanNode follow' x.1 x.2 s = scanNode follow x.1 x.2 s := by
  induction x using induction_on_parts generalizing s with
  | h x ih =>
      cases href : x.2.reference? with
      | some r =>
          rw [scanNode_reference href, scanNode_reference href]
          exact halike r (hx (mem_all_of_reference? href)) s hs
      | none =>
          -- The bound is kept from one part to the next by the rightness of one scan.
          have hall (schemas : List (Pointer × Json)) (hsub : schemas ⊆ parts x) {s : Scan}
              (hs : Bounded root fuel s.followed) :
              scanAll follow' schemas s = scanAll follow schemas s := by
            induction schemas generalizing s with
            | nil => rfl
            | cons y rest ihrest =>
                obtain ⟨hy, hrest⟩ := List.cons_subset.mp hsub
                have hally := List.Subset.trans (all_subset_of_mem_parts hy) hx
                have hnext := (scansNode_of_follow hfollow y hally s hs).bounded
                rw [scanAll, List.foldl_cons, ih y hy hally hs]
                exact ihrest hrest hnext
          rw [scanNode_plain href, scanNode_plain href]
          exact hall _ (List.Subset.refl _) hs

end Nodes

section Following

variable {root : Json}

/-- How the targets of references are scanned. -/
def scanTarget (root : Json) : Nat → Pointer → Json → Scan → Scan
  | 0 => fun _ _ s => s
  | fuel + 1 => scanAt root fuel

theorem scanAt_eq_scanNode (root : Json) (fuel : Nat) (place : Pointer) (schema : Json) :
    scanAt root fuel place schema =
      scanNode (followOnce root (scanTarget root fuel)) place schema := by
  cases fuel <;> rfl

theorem followOnce_of_mem {inner : Pointer → Json → Scan → Scan} {r : String} {s : Scan}
    (h : isLocalReference r = true → r ∈ s.followed) : followOnce root inner r s = s := by
  unfold followOnce
  cases hlocal : isLocalReference r with
  | false => simp
  | true => simp [h hlocal]

theorem followOnce_of_target (inner : Pointer → Json → Scan → Scan) {r : String} {s : Scan}
    {pointer : Pointer} {target : Json} (hlocal : isLocalReference r = true)
    (hnew : r ∉ s.followed) (hpointer : referencePointer? r = some pointer)
    (htarget : root.target? r = some target) :
    followOnce root inner r s = inner pointer target { s with followed := r :: s.followed } := by
  unfold followOnce
  simp [hlocal, hnew, hpointer, htarget]

theorem followOnce_of_dangling (inner : Pointer → Json → Scan → Scan) {r : String} {s : Scan}
    (hlocal : isLocalReference r = true) (hnew : r ∉ s.followed) (hnone : root.target? r = none) :
    followOnce root inner r s = { s with followed := r :: s.followed } := by
  unfold followOnce
  simp [hlocal, hnew, hnone]

/-- What the scan of a target does is done by following the reference to it. -/
theorem ScansTo.of_target {less : Nat} {r : String} {pointer : Pointer} {target : Json}
    {s s' : Scan} (hlocal : isLocalReference r = true)
    (hpointer : referencePointer? r = some pointer) (htarget : root.target? r = some target)
    (h : ScansTo root less (fun s => Covered s (pointer, target)) (Finds root (pointer, target))
      { s with followed := r :: s.followed } s') :
    ScansTo root (less + 1) (fun s => isLocalReference r = true → r ∈ s.followed)
      (FindsBehind root r) s s' where
  bounded := h.bounded.weaken
  kept := ⟨List.Subset.trans (List.subset_cons_self _ _) h.kept.followed, h.kept.found⟩
  covered _ := h.kept.followed List.mem_cons_self
  settled := by
    intro r' hr' hnew pointer' target' hpointer' htarget'
    by_cases hsame : r' = r
    · rw [hsame, hpointer] at hpointer'
      rw [hsame, htarget] at htarget'
      obtain rfl := Option.some.inj hpointer'
      obtain rfl := Option.some.inj htarget'
      exact h.covered
    · exact h.settled r' hr' (List.not_mem_cons_of_ne_of_not_mem hsame hnew) pointer' target'
        hpointer' htarget'
  sound d hd := (h.sound d hd).imp_right fun hfinds =>
    ⟨hlocal, pointer, target, hpointer, htarget, hfinds⟩

/-- A reference without a target leaves nothing to see behind it. -/
theorem scansTo_cons {less : Nat} {covers : Scan → Prop} {finds : Diagnostic → Prop} {r : String}
    {s : Scan} (hbounded : Bounded root less (r :: s.followed)) (hnone : root.target? r = none)
    (hcovers : covers { s with followed := r :: s.followed }) :
    ScansTo root (less + 1) covers finds s { s with followed := r :: s.followed } where
  bounded := hbounded.weaken
  kept := ⟨List.subset_cons_self _ _, List.Subset.refl _⟩
  covered := hcovers
  settled := by
    intro r' hr' hnew _ target _ htarget
    rw [(List.mem_cons.mp hr').resolve_right hnew, hnone] at htarget
    contradiction
  sound _ hd := Or.inl hd

/-- Following a reference covers its target, then or before. -/
theorem scans_followOnce {fuel : Nat}
    (hinner : ∀ less, fuel = less + 1 → ∀ pointer target, all target ⊆ all root →
      Scans root less (fun s => Covered s (pointer, target)) (Finds root (pointer, target))
        (scanTarget root fuel pointer target))
    {r : String} (hr : r ∈ all root) :
    Follows root fuel r (followOnce root (scanTarget root fuel) r) := by
  intro s hs
  by_cases hdone : isLocalReference r = true → r ∈ s.followed
  · rw [followOnce_of_mem hdone]
    exact scansTo_self hs hdone
  · obtain ⟨hlocal, hnew⟩ := Classical.not_imp.mp hdone
    cases fuel with
    | zero =>
        -- At the end of the bound all references have been followed.
        exact absurd (hs.mem_of_zero hr) hnew
    | succ less =>
        have hstep := hs.cons hr hnew
        cases htarget : root.target? r with
        | none =>
            rw [followOnce_of_dangling _ hlocal hnew htarget]
            exact scansTo_cons hstep htarget fun _ => List.mem_cons_self
        | some target =>
            obtain ⟨pointer, hpointer, _⟩ := Option.bind_eq_some_iff.mp htarget
            rw [followOnce_of_target _ hlocal hnew hpointer htarget]
            apply ScansTo.of_target hlocal hpointer htarget
            exact hinner less rfl pointer target (Reference.all_subset_of_target? htarget) _ hstep

theorem follows_scanTarget (fuel : Nat) {r : String} (hr : r ∈ all root) :
    Follows root fuel r (followOnce root (scanTarget root fuel) r) := by
  induction fuel generalizing r with
  | zero => exact scans_followOnce (fun _ h => absurd h (Nat.succ_ne_zero _).symm) hr
  | succ fuel ih =>
      refine scans_followOnce ?_ hr
      rintro less ⟨rfl⟩ pointer target htarget
      rw [scanTarget, scanAt_eq_scanNode]
      exact scansNode_of_follow (fun r hr => ih hr) (pointer, target) htarget

/-- The scan of a schema of the document covers the schema and finds what it leads to. -/
theorem scans_scanAt (fuel : Nat) {schema : Json} (h : all schema ⊆ all root) (place : Pointer) :
    Scans root fuel (fun s => Covered s (place, schema)) (Finds root (place, schema))
      (scanAt root fuel place schema) := by
  rw [scanAt_eq_scanNode]
  exact scansNode_of_follow (fun r hr => follows_scanTarget fuel hr) (place, schema) h

/-- The references of one document that point into the document name the same in another one. -/
def NamesAlike (root root' : Json) : Prop :=
  ∀ s ∈ all root, isLocalReference s = true → root'.target? s = root.target? s

/-- Once as many references may be followed as there are left, a greater bound changes nothing, nor
does another document in which the references name the same. -/
theorem scanAt_eq_of_alike {root' : Json} (halike : NamesAlike root root') {fuel n : Nat}
    {schema : Json} (h : all schema ⊆ all root) (hn : fuel ≤ n) (place : Pointer) {s : Scan}
    (hs : Bounded root fuel s.followed) :
    scanAt root' n place schema s = scanAt root fuel place schema s := by
  induction fuel generalizing n schema place s with
  | zero =>
      rw [scanAt_eq_scanNode, scanAt_eq_scanNode]
      apply scanNode_congr (fun r hr => follows_scanTarget 0 hr) _ (place, schema) h hs
      intro r hr s hs
      have hdone : isLocalReference r = true → r ∈ s.followed := fun _ => hs.mem_of_zero hr
      rw [followOnce_of_mem hdone, followOnce_of_mem hdone]
  | succ fuel ih =>
      obtain ⟨n, rfl⟩ : ∃ m, n = m + 1 := ⟨n - 1, by omega⟩
      rw [scanAt_eq_scanNode, scanAt_eq_scanNode]
      apply scanNode_congr (fun r hr => follows_scanTarget (fuel + 1) hr) _ (place, schema) h hs
      intro r hr s hs
      by_cases hdone : isLocalReference r = true → r ∈ s.followed
      · rw [followOnce_of_mem hdone, followOnce_of_mem hdone]
      · obtain ⟨hlocal, hnew⟩ := Classical.not_imp.mp hdone
        have hsame := halike r hr hlocal
        cases htarget : root.target? r with
        | none => rw [followOnce_of_dangling _ hlocal hnew (hsame.trans htarget),
            followOnce_of_dangling _ hlocal hnew htarget]
        | some target =>
            obtain ⟨pointer, hpointer, _⟩ := Option.bind_eq_some_iff.mp htarget
            rw [followOnce_of_target _ hlocal hnew hpointer (hsame.trans htarget),
              followOnce_of_target _ hlocal hnew hpointer htarget]
            exact ih (Reference.all_subset_of_target? htarget) (Nat.le_of_succ_le_succ hn) pointer
              (hs.cons hr hnew)

theorem scanAt_eq_of_le {fuel n : Nat} {schema : Json} (h : all schema ⊆ all root) (hn : fuel ≤ n)
    (place : Pointer) {s : Scan} (hs : Bounded root fuel s.followed) :
    scanAt root n place schema s = scanAt root fuel place schema s :=
  scanAt_eq_of_alike (fun _ _ _ => rfl) h hn place hs

end Following

section Violations

variable {root schema : Json}

/-- The violations of a schema of the document are what it shows and what those show that it leads
to. -/
theorem mem_schemaViolations_iff (h : all schema ⊆ all root) {place : Pointer} {d : Diagnostic} :
    d ∈ schemaViolations root place schema ↔ Finds root (place, schema) d := by
  obtain ⟨_, _, hcovered, hsettled, hsound⟩ :=
    scans_scanAt (all root).length h place ⟨[], []⟩ (Reference.bounded_start root)
  rw [schemaViolations, List.mem_reverse]
  constructor
  · intro hd
    exact (hsound d hd).resolve_left List.not_mem_nil
  · intro hfinds
    exact mem_found_of_finds hsettled hcovered hfinds

/-- No violation is found in a schema of the document exactly if the schema keeps the rules. -/
theorem schemaViolations_eq_nil_iff (h : all schema ⊆ all root) (place : Pointer) :
    schemaViolations root place schema = [] ↔ Keeps (asValidated root) .schema schema := by
  rw [keeps_schema_iff (place, schema), List.eq_nil_iff_forall_not_mem]
  apply forall_congr'
  intro d
  rw [mem_schemaViolations_iff h]

end Violations

end ApiScreens.Subset
