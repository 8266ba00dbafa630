import ApiScreens.Json.Record
import ApiScreens.Proofs.Json.Tree
import ApiScreens.Proofs.Outcome
import ApiScreens.Proofs.Pointwise
import Mathlib.Data.List.Nodup

/-!
# Forms of records

A closed record is written as an object or as an array. A value is read as a record exactly if it
has one of the two forms and each part of the record is what the entry under its key is read as.
-/

namespace ApiScreens

namespace Keyed

variable {α : Type} {entries : Keyed α} {key : String} {m : String × α}

theorem get?_cons_self : get? (m :: entries) m.1 = some m.2 := by simp [get?]

theorem get?_cons_of_ne (h : key ≠ m.1) : get? (m :: entries) key = entries.get? key := by
  simp [get?, h.symm]

theorem get?_eq_none (h : key ∉ entries.map Prod.fst) : entries.get? key = none := by
  rw [get?, Option.map_eq_none_iff, List.find?_eq_none]
  intro e he hkey
  exact h (eq_of_beq hkey ▸ List.mem_map_of_mem he)

end Keyed

namespace Json

section Lists

variable {α β ε : Type}

theorem mapM_eq_ok {f : α → Except ε β} {items : List α} {values : List β} :
    items.mapM f = .ok values ↔ List.Forall₂ (fun a b => f a = .ok b) items values := by
  induction items generalizing values with
  | nil =>
      rw [List.mapM_nil, List.forall₂_nil_left_iff]
      exact ⟨fun h => (Except.ok.inj h).symm, fun h => h ▸ rfl⟩
  | cons a rest ih =>
      rw [List.mapM_cons, bind_eq_ok, List.forall₂_cons_left_iff]
      constructor
      · rintro ⟨b, hb, h⟩
        obtain ⟨bs, hbs, h⟩ := bind_eq_ok.mp h
        exact ⟨b, bs, hb, ih.mp hbs, (Except.ok.inj h).symm⟩
      · rintro ⟨b, bs, hb, hbs, rfl⟩
        exact ⟨b, hb, bind_eq_ok.mpr ⟨bs, ih.mpr hbs, rfl⟩⟩

end Lists

/-- A value writes a record that has these required fields and then these optional ones: as an
object with declared keys only and all required ones, or as an array of the values of the first
fields. The entries are the values under their keys. -/
inductive WritesRecord (required optional : List String) : Json → Keyed Json → Prop
  | object {members : Members} (declared : ∀ m ∈ members, m.1 ∈ required ++ optional)
      (complete : ∀ key ∈ required, members.has key = true) :
      WritesRecord required optional (.object members) members
  | array {items : List Json} (enough : required.length ≤ items.length)
      (fits : items.length ≤ (required ++ optional).length) :
      WritesRecord required optional (.array items) ((required ++ optional).zip items)

/-- What the entry of a required field stands for. -/
inductive Given {α : Type} (denotes : Json → α → Prop) : Option Json → α → Prop
  | entry {v : Json} {a : α} (here : denotes v a) : Given denotes (some v) a

/-- What the entry of an optional field stands for: nothing if there is none or it is null. -/
inductive Optionally {α : Type} (denotes : Json → α → Prop) : Option Json → Option α → Prop
  | absent : Optionally denotes none none
  | null : Optionally denotes (some .null) none
  | entry {v : Json} {a : α} (here : denotes v a) : Optionally denotes (some v) (some a)

/-- The value is an array, and its items stand for the members of the list in their order. -/
def ListOf {α : Type} (denotes : Json → α → Prop) (v : Json) (list : List α) : Prop :=
  ∃ items, v = .array items ∧ List.Forall₂ denotes items list

section Denotations

variable {α : Type} {denotes : Json → α → Prop} {given : Option Json}

theorem Given.exists_entry {a : α} (h : Given denotes given a) : ∃ v, denotes v a := by
  cases h with
  | entry here => exact ⟨_, here⟩

theorem Optionally.exists_entry {value : Option α} (h : Optionally denotes given value) {a : α}
    (ha : a ∈ value) : ∃ v, denotes v a := by
  cases h with
  | absent => contradiction
  | null => contradiction
  | entry here => exact ⟨_, Option.mem_some.mp ha ▸ here⟩

theorem ListOf.exists_item {v : Json} {list : List α} (h : ListOf denotes v list) {a : α}
    (ha : a ∈ list) : ∃ w, denotes w a := by
  obtain ⟨items, -, hitems⟩ := h
  obtain ⟨w, -, hw⟩ := exists_of_forall₂ hitems.flip ha
  exact ⟨w, hw⟩

end Denotations

section Forms

variable {required optional : List String} {v : Json} {entries : Keyed Json}

theorem map_fst_zip_of_le {keys : List String} {items : List Json}
    (h : items.length ≤ keys.length) :
    (keys.zip items).map Prod.fst = keys.take items.length := by
  rw [List.zip_eq_zip_take_min, Nat.min_eq_right h, List.take_length]
  exact List.map_fst_zip (Nat.le_of_eq (List.length_take_of_le h))

theorem WritesRecord.nodup_keys (h : WritesRecord required optional v entries) (hv : v.IsTree)
    (hkeys : (required ++ optional).Nodup) : (entries.map Prod.fst).Nodup := by
  cases h with
  | object =>
      refine List.pairwise_map.mpr ((isTree_object.mp hv).1.imp ?_)
      rintro a b hlt heq
      exact String.lt_irrefl _ (heq ▸ hlt)
  | array _ fits =>
      rw [map_fst_zip_of_le fits]
      exact hkeys.sublist (List.take_sublist _ _)

theorem WritesRecord.mem_keys (h : WritesRecord required optional v entries) :
    ∀ m ∈ entries, m.1 ∈ required ++ optional := by
  cases h with
  | object declared _ => exact declared
  | array => exact fun m hm => (List.of_mem_zip hm).1

theorem WritesRecord.isTree (h : WritesRecord required optional v entries) (hv : v.IsTree) :
    ∀ m ∈ entries, m.2.IsTree := by
  cases h with
  | object => exact (isTree_object.mp hv).2
  | array => exact fun m hm => isTree_array.mp hv _ (List.of_mem_zip hm).2

/-- A required field has an entry. -/
theorem WritesRecord.isSome_get? (h : WritesRecord required optional v entries) {key : String}
    (hkey : key ∈ required) : (entries.get? key).isSome = true := by
  rw [← Keyed.has_eq_isSome_get?]
  cases h with
  | object _ complete => exact complete key hkey
  | @array items enough fits =>
      have hmem : key ∈ ((required ++ optional).zip items).map Prod.fst := by
        rw [map_fst_zip_of_le fits, List.take_append]
        exact List.mem_append_left _ (by rwa [List.take_of_length_le enough])
      obtain ⟨m, hm, rfl⟩ := List.mem_map.mp hmem
      exact List.any_eq_true.mpr ⟨m, hm, beq_self_eq_true _⟩

theorem WritesRecord.isTree_get? (h : WritesRecord required optional v entries) (hv : v.IsTree)
    {key : String} : ∀ w ∈ entries.get? key, w.IsTree := by
  intro w hw
  exact h.isTree hv _ (Keyed.mem_of_get? hw)

end Forms

section Reading

variable {α : Type} {shape : RecordShape} {required optional : List String}
  {put : String → Json → α → Except Mismatch α} {start r : α}

/-- The fields of a declaration. -/
def declared (required optional : List String) : List FieldShape :=
  required.map (⟨·, true⟩) ++ optional.map (⟨·, false⟩)

theorem foldlM_putMember (hclosed : shape.closed = true) {members : Members} :
    members.foldlM (shape.putMember put) start = .ok r ↔
      (∀ m ∈ members, m.1 ∈ shape.keys) ∧
        members.foldlM (fun r m => put m.1 m.2 r) start = .ok r := by
  induction members generalizing start with
  | nil => simp
  | cons m rest ih =>
      rw [List.foldlM_cons, List.foldlM_cons, List.forall_mem_cons]
      by_cases hm : m.1 ∈ shape.keys
      · have hput : shape.putMember put start m = put m.1 m.2 start := by
          simp [RecordShape.putMember, hm]
        rw [hput, bind_eq_ok, bind_eq_ok]
        simp only [ih, hm, true_and]
        constructor
        · rintro ⟨next, hnext, hdeclared, hrest⟩
          exact ⟨hdeclared, next, hnext, hrest⟩
        · rintro ⟨hdeclared, next, hnext, hrest⟩
          exact ⟨next, hnext, hdeclared, hrest⟩
      · have hput : shape.putMember put start m = .error (.unknownField m.1 shape.keys) := by
          simp [RecordShape.putMember, hm, hclosed]
        rw [hput]
        exact ⟨nofun, fun h => absurd h.1.1 hm⟩

theorem find?_missing_eq_none {members : Members} :
    ((declared required optional).find? fun f => f.required && !Keyed.has members f.key) = none ↔
      ∀ key ∈ required, members.has key = true := by
  simp [declared, List.find?_eq_none]

theorem find?_behind_eq_none (n : Nat) :
    (((declared required optional).zipIdx.drop n).find? (·.1.required)) = none ↔
      required.length ≤ n := by
  have hfields : ((declared required optional).zipIdx.drop n).map Prod.fst =
      (required.drop n).map (⟨·, true⟩) ++
        (optional.drop (n - required.length)).map (⟨·, false⟩) := by
    rw [List.map_drop, List.zipIdx_map_fst, declared, List.drop_append, List.map_drop,
      List.map_drop, List.length_map]
  have hnone : (((declared required optional).zipIdx.drop n).find? (·.1.required)) = none ↔
      ∀ f ∈ ((declared required optional).zipIdx.drop n).map Prod.fst, ¬ f.required = true := by
    rw [List.find?_eq_none, List.forall_mem_map]
  rw [hnone, hfields, List.forall_mem_append, List.forall_mem_map, List.forall_mem_map,
    ← List.drop_eq_nil_iff, List.eq_nil_iff_forall_not_mem]
  simp

theorem keys_eq (hfields : shape.fields = declared required optional) :
    shape.keys = required ++ optional := by
  simp [RecordShape.keys, hfields, declared, Function.comp_def]

theorem read_object_eq_ok_iff (hfields : shape.fields = declared required optional)
    (hclosed : shape.closed = true) {members : Members} :
    shape.read put start (.object members) = .ok r ↔
      ((∀ m ∈ members, m.1 ∈ required ++ optional) ∧ ∀ key ∈ required, members.has key = true) ∧
        members.foldlM (fun r m => put m.1 m.2 r) start = .ok r := by
  rw [← find?_missing_eq_none, ← hfields, ← keys_eq hfields, RecordShape.read, bind_eq_ok]
  simp only [foldlM_putMember hclosed]
  constructor
  · rintro ⟨r', ⟨hdeclared, hfold⟩, h⟩
    split at h
    · contradiction
    · rename_i hcomplete
      obtain rfl := Except.ok.inj h
      exact ⟨⟨hdeclared, hcomplete⟩, hfold⟩
  · rintro ⟨⟨hdeclared, hcomplete⟩, hfold⟩
    refine ⟨r, ⟨hdeclared, hfold⟩, ?_⟩
    rw [hcomplete]

theorem read_array_eq_ok_iff (hfields : shape.fields = declared required optional)
    {items : List Json} :
    shape.read put start (.array items) = .ok r ↔
      (required.length ≤ items.length ∧ items.length ≤ (required ++ optional).length) ∧
        ((required ++ optional).zip items).foldlM (fun r m => put m.1 m.2 r) start = .ok r := by
  have hlength : shape.fields.length = shape.keys.length := (List.length_map _).symm
  rw [← find?_behind_eq_none, ← hfields, ← keys_eq hfields, ← hlength, RecordShape.read, bind_eq_ok]
  constructor
  · rintro ⟨r', hfold, h⟩
    split at h
    · contradiction
    · rename_i henough
      split at h
      · contradiction
      · rename_i hfits
        obtain rfl := Except.ok.inj h
        exact ⟨⟨henough, Nat.not_lt.mp hfits⟩, hfold⟩
  · rintro ⟨⟨henough, hfits⟩, hfold⟩
    refine ⟨r, hfold, ?_⟩
    simp only [henough, if_neg (Nat.not_lt.mpr hfits)]

/-- A value is read as a record by its entries if it has one of the two forms. -/
theorem read_eq_ok_iff_entries (hfields : shape.fields = declared required optional)
    (hclosed : shape.closed = true) {v : Json} :
    shape.read put start v = .ok r ↔ ∃ entries, WritesRecord required optional v entries ∧
      entries.foldlM (fun r m => put m.1 m.2 r) start = .ok r := by
  cases v with
  | object members =>
      rw [read_object_eq_ok_iff hfields hclosed]
      constructor
      · exact fun ⟨⟨hdeclared, hcomplete⟩, hfold⟩ => ⟨_, .object hdeclared hcomplete, hfold⟩
      · rintro ⟨_, hwrites, hfold⟩
        cases hwrites with
        | object hdeclared hcomplete => exact ⟨⟨hdeclared, hcomplete⟩, hfold⟩
  | array items =>
      rw [read_array_eq_ok_iff hfields]
      constructor
      · exact fun ⟨⟨henough, hfits⟩, hfold⟩ => ⟨_, .array henough hfits, hfold⟩
      · rintro ⟨_, hwrites, hfold⟩
        cases hwrites with
        | array henough hfits => exact ⟨⟨henough, hfits⟩, hfold⟩
  | _ => exact ⟨nofun, fun ⟨_, h, _⟩ => nomatch h⟩

end Reading

section Parts

/-- A part of a record with the reader of its entry. -/
structure RecordPart (α : Type) where
  value : Type
  read : Reads value
  get : α → value
  set : value → α → α

/-- What a part of a record is after reading: what its entry is read as, or what it was before. -/
def RecordPart.Filled {α : Type} (part : RecordPart α) (start : α) (given : Option Json) (r : α) :
    Prop :=
  match given with
  | some v => part.read v = .ok (part.get r)
  | none => part.get r = part.get start

/-- Reading an entry replaces the part under its key, and the parts make up the record. -/
structure FillsParts {α : Type} (keys : List String) (part : String → RecordPart α)
    (put : String → Json → α → Except Mismatch α) : Prop where
  put_eq : ∀ key ∈ keys, ∀ v r, put key v r = ((part key).read v).map ((part key).set · r)
  get_set : ∀ key ∈ keys, ∀ x r, (part key).get ((part key).set x r) = x
  get_set_of_ne : ∀ key ∈ keys, ∀ other ∈ keys, key ≠ other → ∀ x r,
    (part key).get ((part other).set x r) = (part key).get r
  ext : ∀ r r', (∀ key ∈ keys, (part key).get r = (part key).get r') → r = r'

variable {α : Type} {keys : List String} {part : String → RecordPart α}
  {put : String → Json → α → Except Mismatch α} {start r : α} {entries : Keyed Json}

/-- What a part is after reading does not depend on the other parts before it. -/
theorem FillsParts.filled_set_iff (h : FillsParts keys part put) {key other : String}
    (hkey : key ∈ keys) (hother : other ∈ keys) (hne : key ≠ other) (x : (part other).value)
    (given : Option Json) :
    (part key).Filled ((part other).set x start) given r ↔ (part key).Filled start given r := by
  cases given with
  | some v => exact Iff.rfl
  | none => rw [RecordPart.Filled, RecordPart.Filled, h.get_set_of_ne key hkey other hother hne]

/-- The entries are read one after the other exactly if every part is what its entry is read as. -/
theorem FillsParts.foldlM_eq_ok_iff (h : FillsParts keys part put)
    (hnodup : (entries.map Prod.fst).Nodup) (hkeys : ∀ m ∈ entries, m.1 ∈ keys) :
    entries.foldlM (fun r m => put m.1 m.2 r) start = .ok r ↔
      ∀ key ∈ keys, (part key).Filled start (entries.get? key) r := by
  -- What the first entry sets is not touched by the rest, since no key comes twice: for its own part
  -- the rest has no entry, and for the other parts it might not have been set.
  induction entries generalizing start with
  | nil =>
      rw [List.foldlM_nil]
      constructor
      · intro hr key _
        obtain rfl := Except.ok.inj hr
        rfl
      · intro hfilled
        rw [h.ext r start fun key hkey => hfilled key hkey]
        rfl
  | cons m rest ih =>
      obtain ⟨hm, hrest⟩ := List.forall_mem_cons.mp hkeys
      obtain ⟨hnew, hnodup⟩ := List.nodup_cons.mp hnodup
      rw [List.foldlM_cons, bind_eq_ok]
      simp only [ih hnodup hrest]
      rw [h.put_eq m.1 hm]
      simp only [map_eq_ok]
      constructor
      · rintro ⟨_, ⟨x, hread, rfl⟩, hfilled⟩ key hkey
        by_cases heq : key = m.1
        · subst heq
          have hget := hfilled m.1 hkey
          rw [Keyed.get?_eq_none hnew, RecordPart.Filled, h.get_set m.1 hm] at hget
          rw [Keyed.get?_cons_self, RecordPart.Filled, hread, hget]
        · rw [Keyed.get?_cons_of_ne heq]
          exact (h.filled_set_iff hkey hm heq x _).mp (hfilled key hkey)
      · intro hfilled
        have hread := hfilled m.1 hm
        rw [Keyed.get?_cons_self] at hread
        refine ⟨_, ⟨_, hread, rfl⟩, fun key hkey => ?_⟩
        by_cases heq : key = m.1
        · subst heq
          rw [Keyed.get?_eq_none hnew, RecordPart.Filled, h.get_set m.1 hm]
        · rw [h.filled_set_iff hkey hm heq, ← Keyed.get?_cons_of_ne heq]
          exact hfilled key hkey

variable {shape : RecordShape} {v : Json}

/-- A tree is read as a record exactly if it writes one whose parts are what their entries are read
as; where there is no entry, the part is as it was at the start. -/
theorem read_eq_ok_iff_filled (required optional : List String)
    (h : FillsParts (required ++ optional) part put)
    (hfields : shape.fields = declared required optional) (hclosed : shape.closed = true)
    (hkeys : (required ++ optional).Nodup) (hv : v.IsTree) :
    shape.read put start v = .ok r ↔ ∃ entries, WritesRecord required optional v entries ∧
      ∀ key ∈ required ++ optional, (part key).Filled start (entries.get? key) r := by
  rw [read_eq_ok_iff_entries hfields hclosed]
  refine exists_congr fun entries => and_congr_right fun hwrites => ?_
  exact h.foldlM_eq_ok_iff (hwrites.nodup_keys hv hkeys) hwrites.mem_keys

end Parts

section Readers

variable {β : Type} {read : Reads β} {denotes : Json → β → Prop} {v : Json}

theorem readText_eq_ok_iff {s : String} : readText v = .ok s ↔ v = .string s := by
  cases v <;> simp [readText]

theorem readBool_eq_ok_iff {b : Bool} : readBool v = .ok b ↔ v = .bool b := by
  cases v <;> simp [readBool]

theorem readDouble_eq_ok_iff {d : Double} :
    readDouble v = .ok d ↔ ∃ n, v = .number n ∧ n.toDouble = d := by
  cases v <;> simp [readDouble]

theorem readList_eq_ok_iff {list : List β} (hv : v.IsTree)
    (hread : ∀ w, w.IsTree → ∀ b, read w = .ok b ↔ denotes w b) :
    readList read v = .ok list ↔ ListOf denotes v list := by
  cases v with
  | array items =>
      have hitems : ∀ w ∈ items, w.IsTree := isTree_array.mp hv
      simp only [readList, ListOf, mapM_eq_ok, array.injEq, exists_eq_left']
      clear hv
      induction items generalizing list with
      | nil => simp
      | cons w rest ih =>
          obtain ⟨hw, hrest⟩ := List.forall_mem_cons.mp hitems
          simp only [List.forall₂_cons_left_iff, ih hrest, hread w hw]
  | _ => simp [readList, ListOf]

theorem readOptional_of_ne_null (hv : v ≠ .null) : readOptional read v = (read v).map some := by
  cases v with
  | null => contradiction
  | _ => rfl

theorem readOptional_eq_ok_iff {b : Option β} (hread : ∀ b, read v = .ok b ↔ denotes v b)
    (hnull : ∀ b, ¬ denotes .null b) :
    readOptional read v = .ok b ↔ Optionally denotes (some v) b := by
  by_cases hv : v = .null
  · subst hv
    constructor
    · intro h
      obtain rfl := Except.ok.inj h
      exact .null
    · rintro (_ | _ | hdenotes)
      · rfl
      · exact absurd hdenotes (hnull _)
  · rw [readOptional_of_ne_null hv, map_eq_ok]
    constructor
    · rintro ⟨b, hb, rfl⟩
      exact .entry ((hread b).mp hb)
    · rintro (_ | _ | hdenotes)
      · contradiction
      · exact ⟨_, (hread _).mpr hdenotes, rfl⟩

variable {α : Type} {start r : α} {given : Option Json}

theorem filled_iff_given {get : α → β} {set : β → α → α} (hgiven : given.isSome = true)
    (hread : ∀ v ∈ given, ∀ b, read v = .ok b ↔ denotes v b) :
    RecordPart.Filled ⟨β, read, get, set⟩ start given r ↔ Given denotes given (get r) := by
  obtain ⟨v, rfl⟩ := Option.isSome_iff_exists.mp hgiven
  rw [RecordPart.Filled, hread v rfl]
  exact ⟨.entry, fun ⟨h⟩ => h⟩

theorem filled_iff_optionally {get : α → Option β} {set : Option β → α → α}
    (hstart : get start = none) (hread : ∀ v ∈ given, ∀ b, read v = .ok b ↔ denotes v b)
    (hnull : ∀ b, ¬ denotes .null b) :
    RecordPart.Filled ⟨Option β, readOptional read, get, set⟩ start given r ↔
      Optionally denotes given (get r) := by
  cases given with
  | none =>
      change get r = get start ↔ _
      rw [hstart]
      constructor
      · intro h
        rw [h]
        exact .absent
      · intro h
        generalize get r = b at h
        cases h
        rfl
  | some v => exact readOptional_eq_ok_iff (hread v rfl) hnull

end Readers

end Json

end ApiScreens
