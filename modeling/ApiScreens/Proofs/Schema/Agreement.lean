import ApiScreens.Proofs.Document.CanonicalParts
import ApiScreens.Proofs.Schema.Occurrences
import Mathlib.Data.Set.List

/-!
# Schemas that agree

Two schemas that are the same document up to what canonical forms forget, and that agree on types
and on properties whose names canonical forms leave out, have the same fields: the same paths,
types and requirements in the same order, and the same options up to their order.
-/

namespace ApiScreens

open Canonical (Same SameSilent canonicalize)

/-- Texts in ascending order. -/
def sortTexts (texts : List String) : List String := texts.mergeSort fun a b => compare a b != .gt

theorem sortTexts_eq_of_perm {texts texts' : List String} (h : texts.Perm texts') :
    sortTexts texts = sortTexts texts' :=
  mergeSort_eq_of_perm (fun _ _ _ _ heq => Std.LawfulEqOrd.eq_of_compare heq) h

/-- A field with its options changed. -/
def FieldInfo.mapOptions (f : List String → List String) (info : FieldInfo) : FieldInfo :=
  { info with options := info.options.map f }

namespace Schema

/-- A relation that holds of two schemas, of their properties of each name, and of their items, at
every depth. -/
inductive Throughout (R : Json → Json → Prop) : Json → Json → Prop
  | intro {s t : Json} (here : R s t)
      (properties : ∀ name v w, (properties s).get? name = some v →
        (properties t).get? name = some w → Throughout R v w)
      (items : ∀ v w, s.get? "items" = some v → t.get? "items" = some w → Throughout R v w) :
      Throughout R s t

section Throughout

variable {R S : Json → Json → Prop} {s t : Json}

theorem Throughout.here (h : Throughout R s t) : R s t := by
  cases h with
  | intro here _ _ => exact here

theorem Throughout.and (h : Throughout R s t) (h' : Throughout S s t) :
    Throughout (fun s t => R s t ∧ S s t) s t := by
  induction h with
  | intro here _ _ ihproperties ihitems =>
      obtain ⟨here', properties', items'⟩ := h'
      refine .intro ⟨here, here'⟩ ?_ ?_
      · intro name v w hv hw
        exact ihproperties name v w hv hw (properties' name v w hv hw)
      · intro v w hv hw
        exact ihitems v w hv hw (items' v w hv hw)

theorem Throughout.imp (h : Throughout R s t) (himp : ∀ s t, R s t → S s t) :
    Throughout S s t := by
  induction h with
  | intro here _ _ ihproperties ihitems => exact .intro (himp _ _ here) ihproperties ihitems

end Throughout

/-- Two schemas agree on what screens see of them and canonical forms may forget: which of several
types they state, and the properties that canonical forms leave out. -/
structure Agrees (s t : Json) : Prop where
  type : statedType? s = statedType? t
  silent : SameSilent (properties s) (properties t)

/-- What screens see of two schemas is the same once options are changed by a function. -/
structure Matches (f : List String → List String) (s t : Json) : Prop where
  same : Same s t
  agrees : Agrees s t
  options : (options? s).map f = (options? t).map f

section Same

variable {s t : Json}

/-- Same schemas that agree have the same properties, in pairs. -/
theorem Agrees.forall₂_properties (h : Agrees s t) (hsame : Same s t) :
    List.Forall₂ (fun m n => m.1 = n.1 ∧ Same m.2 n.2 ∧ (properties s).get? m.1 = some m.2 ∧
      (properties t).get? n.1 = some n.2) (properties s) (properties t) := by
  have hmembers : List.Forall₂ (fun m n => m.1 = n.1 ∧ Same m.2 n.2 ∧ m ∈ properties s ∧
      n ∈ properties t) (properties s) (properties t) :=
    hsame.membersAt (by decide) h.silent
  have hlookup {v : Json} (hv : v.IsTree) {m : String × Json} (hm : m ∈ properties v) :
      (properties v).get? m.1 = some m.2 :=
    (Keyed.get?_eq_some_iff (hv.membersAt "properties").1).mpr hm
  apply hmembers.imp
  rintro m n ⟨hname, hvalue, hm, hn⟩
  exact ⟨hname, hvalue, hlookup hsame.isTree.1 hm, hlookup hsame.isTree.2 hn⟩

/-- Same schemas that agree at every depth are the same at every depth. -/
theorem Throughout.same (h : Throughout Agrees s t) (hsame : Same s t) :
    Throughout (fun s t => Same s t ∧ Agrees s t) s t := by
  induction h with
  | @intro s t here _ _ ihproperties ihitems =>
      refine .intro ⟨hsame, here⟩ ?_ ?_
      · intro name v w hv hw
        refine ihproperties name v w hv hw ?_
        obtain ⟨n, _, hname, hvalue, _, hn⟩ :=
          exists_of_forall₂ (here.forall₂_properties hsame) (Keyed.mem_of_get? hv)
        obtain rfl : n.2 = w := Option.some.inj (hn.symm.trans (hname ▸ hw))
        exact hvalue
      · intro v w hv hw
        have hitems : Option.Rel Same (s.get? "items") (t.get? "items") :=
          hsame.rel_get? (by decide)
        rw [hv, hw, Option.rel_some_some] at hitems
        exact ihitems v w hv hw hitems

/-- Same schemas have the same options up to their order. -/
theorem exists_options_perm (hsame : Same s t) {options : List String}
    (h : options? s = some options) : ∃ options', options? t = some options' ∧
      options.Perm options' := by
  obtain ⟨hitems, hne⟩ := options?_eq_some.mp h
  have hperm := @Canonical.itemsAt_perm s t "enum" (by decide) hsame.canonicalize_eq
  have hforms (texts : List String) :
      (texts.map Json.string).map canonicalize = texts.map .string := by
    simp [canonicalize]
  rw [hitems, hforms] at hperm
  -- Only strings have the canonical forms of strings.
  have hstrings : t.itemsAt "enum" ∈ Set.range (List.map Json.string) := by
    rw [Set.range_list_map]
    intro v hv
    have hform := hperm.mem_iff.mpr (List.mem_map_of_mem hv)
    obtain ⟨text, _, htext⟩ := List.mem_map.mp hform
    cases v with
    | string s => exact Set.mem_range_self s
    | _ => contradiction
  obtain ⟨options', hitems'⟩ := hstrings
  rw [← hitems', hforms, List.map_perm_map_iff fun _ _ => Json.string.inj] at hperm
  refine ⟨options', options?_eq_some.mpr ⟨hitems'.symm, ?_⟩, hperm⟩
  rintro rfl
  exact hne (List.perm_nil.mp hperm)

theorem sorted_options?_eq (hsame : Same s t) :
    (options? s).map sortTexts = (options? t).map sortTexts := by
  cases hs : options? s with
  | some options =>
      obtain ⟨options', ht, hperm⟩ := exists_options_perm hsame hs
      rw [ht, Option.map_some, Option.map_some, sortTexts_eq_of_perm hperm]
  | none =>
      cases ht : options? t with
      | none => rfl
      | some options =>
          obtain ⟨_, hs', _⟩ := exists_options_perm hsame.symm ht
          rw [hs] at hs'
          contradiction

end Same

section Matches

variable {f : List String → List String} {s t : Json}

/-- Same schemas that agree at every depth match once options are sorted. -/
theorem Throughout.matches_sorted (h : Throughout Agrees s t) (hsame : Same s t) :
    Throughout (Matches sortTexts) s t :=
  (h.same hsame).imp fun _ _ ⟨hsame, hagrees⟩ => ⟨hsame, hagrees, sorted_options?_eq hsame⟩

/-- Same schemas that agree at every depth, options included, match as they are. -/
theorem Throughout.matches_id (h : Throughout Agrees s t)
    (hoptions : Throughout (fun s t => options? s = options? t) s t) (hsame : Same s t) :
    Throughout (Matches id) s t :=
  ((h.same hsame).and hoptions).imp fun _ _ ⟨⟨hsame, hagrees⟩, hoptions⟩ =>
    ⟨hsame, hagrees, congrArg (Option.map id) hoptions⟩

theorem Matches.names_eq (h : Matches f s t) :
    (properties s).map (·.1) = (properties t).map (·.1) := by
  rw [← List.forall₂_eq_eq_eq, List.forall₂_map_left_iff, List.forall₂_map_right_iff]
  exact (h.agrees.forall₂_properties h.same).imp fun _ _ hmember => hmember.1

theorem Matches.has_eq (h : Matches f s t) (name : String) :
    (properties s).has name = (properties t).has name := by
  have hnames (members : Json.Members) :
      members.has name = (members.map (·.1)).any (· == name) := by
    simp [Keyed.has, List.any_map, Function.comp_def]
  rw [hnames, hnames, h.names_eq]

theorem Matches.required_eq (h : Matches f s t) (name : String) :
    (requiredNames s).contains name = (requiredNames t).contains name := by
  have hperm : (requiredNames s).Perm (requiredNames t) :=
    @Canonical.textsAt_perm s t "required" (by decide) h.same.canonicalize_eq
  rw [Bool.eq_iff_iff, List.contains_iff_mem, List.contains_iff_mem, hperm.mem_iff]

theorem Matches.isObjectLike_eq (h : Matches f s t) : isObjectLike s = isObjectLike t := by
  unfold isObjectLike
  rw [h.agrees.type, Canonical.isSome_get?_congr (by decide) h.same.canonicalize_eq]

/-- Two descriptions match: they say the same, with items that match at every depth and options
that are equal once they are changed by a function. -/
inductive Form.Matches (f : List String → List String) : Form → Form → Prop
  | object : Matches f .object .object
  | objects {v w : Json} (items : Throughout (Schema.Matches f) v w) :
      Matches f (.objects v) (.objects w)
  | values : Matches f .values .values
  | leaf (type : FieldType) {o o' : Option (List String)} (options : o.map f = o'.map f) :
      Matches f (.leaf type o) (.leaf type o')

theorem arrayForm_matches (h : Throughout (Matches f) s t) :
    (arrayForm s).Matches f (arrayForm t) := by
  obtain ⟨here, _, items⟩ := h
  have hitems : Option.Rel (Throughout (Matches f)) (s.get? "items") (t.get? "items") :=
    rel_imp (here.same.rel_get? (by decide)) fun v w hv hw _ => items v w hv hw
  unfold arrayForm
  generalize s.get? "items" = a at hitems
  generalize t.get? "items" = b at hitems
  cases hitems with
  | none => exact .values
  | some hthroughout =>
      dsimp only
      rw [hthroughout.here.isObjectLike_eq]
      split
      · exact .objects hthroughout
      · exact .values

/-- Schemas that match at every depth describe what matches. -/
theorem form_matches (h : Throughout (Matches f) s t) : (form s).Matches f (form t) := by
  have hoptions := h.here.options
  have hforms := h.here.same.canonicalize_eq
  have hproperties : (s.get? "properties").isSome = (t.get? "properties").isSome :=
    Canonical.isSome_get?_congr (by decide) hforms
  have hitems : (s.get? "items").isSome = (t.get? "items").isSome :=
    Canonical.isSome_get?_congr (by decide) hforms
  unfold form
  rw [h.here.agrees.type, hproperties, hitems]
  cases hs : options? s with
  | some options =>
      rw [hs] at hoptions
      obtain ⟨options', ht, hchanged⟩ := Option.map_eq_some_iff.mp hoptions.symm
      rw [ht]
      exact .leaf _ (by rw [Option.map_some, Option.map_some, hchanged])
  | none =>
      rw [hs] at hoptions
      rw [Option.map_eq_none_iff.mp hoptions.symm]
      dsimp only
      split
      · exact .object
      · exact arrayForm_matches h
      · exact .leaf _ rfl
      · exact .leaf _ rfl
      · exact .leaf _ rfl
      · exact .leaf _ rfl
      · split
        · exact .object
        · split
          · exact arrayForm_matches h
          · exact .leaf _ rfl

/-- Schemas that match at every depth contribute object schemas that do, or none. -/
theorem object?_matches (h : Throughout (Matches f) s t) :
    Option.Rel (Throughout (Matches f)) (object? s) (object? t) := by
  have hform := form_matches h
  unfold object?
  generalize form s = a at hform
  generalize form t = b at hform
  cases hform with
  | object => exact .some h
  | objects items => exact .some items
  | values => exact .none
  | leaf => exact .none

theorem declares_eq (h : Throughout (Matches f) s t) (name : String) :
    declares s name = declares t name := by
  have hobjects := object?_matches h
  unfold declares
  generalize object? s = a at hobjects
  generalize object? t = b at hobjects
  cases hobjects with
  | none => rfl
  | some hobject => exact hobject.here.has_eq name

end Matches

section Leaves

variable {f : List String → List String} {s t : Json}

/-- Two schemas have the same fields once options are changed by a function, below themselves and
below their items. -/
def SameFields (f : List String → List String) (s t : Json) : Prop :=
  (∀ path, (leaves path s).map (FieldInfo.mapOptions f) =
    (leaves path t).map (FieldInfo.mapOptions f)) ∧
  ∀ path, (leavesOfItems path s).map (FieldInfo.mapOptions f) =
    (leavesOfItems path t).map (FieldInfo.mapOptions f)

theorem leavesOfEach_map_eq {members members' : Json.Members} {required required' : List String}
    (hmembers : List.Forall₂ (fun m n => m.1 = n.1 ∧ Throughout (Matches f) m.2 n.2 ∧
      SameFields f m.2 n.2) members members')
    (hrequired : ∀ name, required.contains name = required'.contains name) (path : String) :
    (leavesOfEach path required members).map (FieldInfo.mapOptions f) =
      (leavesOfEach path required' members').map (FieldInfo.mapOptions f) := by
  induction hmembers with
  | nil => rfl
  | @cons m n rest rest' hmember _ ih =>
      obtain ⟨name, v⟩ := m
      obtain ⟨name', w⟩ := n
      obtain ⟨hname, hmatches, hfields, hitems⟩ := hmember
      obtain rfl : name = name' := hname
      have hform := form_matches hmatches
      rw [leavesOfEach, leavesOfEach, List.map_append, List.map_append, ih]
      congr 1
      generalize form v = a at hform
      generalize form w = b at hform
      cases hform with
      | object => exact hfields _
      | objects => exact hitems _
      | values => rfl
      | leaf type hoptions =>
          simp only [List.map_cons, List.map_nil, FieldInfo.mapOptions, hoptions, hrequired]

/-- Schemas that match at every depth have the same fields. -/
theorem sameFields_of_matches (h : Throughout (Matches f) s t) : SameFields f s t := by
  induction h with
  | @intro s t here properties items ihproperties ihitems =>
      have hleaves (path : String) : (leaves path s).map (FieldInfo.mapOptions f) =
          (leaves path t).map (FieldInfo.mapOptions f) := by
        rw [leaves_eq, leaves_eq]
        refine leavesOfEach_map_eq ?_ here.required_eq path
        apply (here.agrees.forall₂_properties here.same).imp
        rintro m n ⟨hname, _, hm, hn⟩
        rw [← hname] at hn
        exact ⟨hname, properties _ _ _ hm hn, ihproperties _ _ _ hm hn⟩
      refine ⟨hleaves, ?_⟩
      intro path
      have hitems : Option.Rel (SameFields f) (s.get? "items") (t.get? "items") :=
        rel_imp (here.same.rel_get? (by decide)) fun v w hv hw _ => ihitems v w hv hw
      rw [leavesOfItems_eq, leavesOfItems_eq]
      generalize s.get? "items" = a at hitems
      generalize t.get? "items" = b at hitems
      cases hitems with
      | none => rfl
      | some hfields => exact hfields.1 path

/-- Schemas that match at every depth have the same occurrences of fields. -/
theorem occurrences_map_eq (h : Throughout (Matches f) s t) :
    (occurrences s).map (FieldInfo.mapOptions f) =
      (occurrences t).map (FieldInfo.mapOptions f) := by
  have hobjects := object?_matches h
  unfold occurrences
  generalize object? s = a at hobjects
  generalize object? t = b at hobjects
  cases hobjects with
  | none => rfl
  | some hobject => exact (sameFields_of_matches hobject).1 ""

end Leaves

end Schema

end ApiScreens
