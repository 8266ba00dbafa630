import ApiScreens.Json.Pointer
import ApiScreens.Proofs.Json.ReadBack

/-!
# Pointers lead to what they are made for

A token that is pushed on a pointer is its last token, whatever characters it has. So a pointer that
leads to a value leads, once a key or an index is pushed, to the member or the item of the value.
The text of an index is read as the index as long as indices are words.
-/

namespace ApiScreens.Json

namespace Pointer

theorem slash_not_mem_escapeChars (token : List Char) : '/' ∉ escapeChars token := by
  intro h
  obtain ⟨c, -, hc⟩ := List.mem_flatMap.mp h
  split at hc
  · simp at hc
  · simp at hc
  · rename_i hslash
    exact hslash (List.mem_singleton.mp hc).symm

theorem toList_push (pointer : Pointer) (token : String) :
    (push pointer token).toList = pointer.toList ++ '/' :: escapeChars token.toList := by
  simp [push, escape]

/-- Pushing a token on a pointer adds it to the tokens. -/
theorem tokens?_push {pointer : Pointer} {tokens : List String} (h : pointer.tokens? = some tokens)
    (token : String) : (push pointer token).tokens? = some (tokens ++ [token]) := by
  have hlast : Text.splitChars '/' (escapeChars token.toList) = [escapeChars token.toList] :=
    Text.splitChars_eq_singleton (slash_not_mem_escapeChars token.toList)
  rw [tokens?, toList_push]
  unfold tokens? at h
  split at h
  · rename_i hnil
    obtain rfl := Option.some.inj h
    simp [hnil, hlast, unescapeChars_escapeChars]
  · rename_i rest hcons
    obtain rfl := Option.some.inj h
    simp [hcons, Text.splitChars_append, hlast, unescapeChars_escapeChars]
  · contradiction

theorem index?_toString {i : Nat} (h : i < UInt64.size) : index? (toString i) = some i := by
  have hchars : (toString i).toList = Decimal.digitChars i := by simp [Decimal.digitChars]
  have hall : (Decimal.digitChars i).all Char.isDigit = true :=
    List.all_eq_true.mpr (Decimal.allDigits_digitChars i)
  have hsign : ∀ ds, Decimal.digitChars i ≠ '+' :: ds := by
    intro ds heq
    have hdigit := Decimal.allDigits_digitChars i '+' (heq ▸ List.mem_cons_self)
    contradiction
  have hne : Decimal.digitChars i ≠ [] := Nat.toDigits_ne_nil
  unfold index?
  rw [hchars]
  split
  · rename_i ds heq
    exact absurd heq (hsign ds)
  · simp [hne, hall, Decimal.natOf_digitChars, h]

end Pointer

section Lookup

variable {root v w : Json} {pointer : Pointer}

theorem lookup?_eq_some_iff : root.lookup? pointer = some v ↔
    ∃ tokens, pointer.tokens? = some tokens ∧ root.descend? tokens = some v :=
  Option.bind_eq_some_iff

theorem lookup?_root (root : Json) : root.lookup? "" = some root := rfl

/-- A token that is pushed on the pointer of a value leads to its child. -/
theorem lookup?_push (h : root.lookup? pointer = some v) (token : String) :
    root.lookup? (Pointer.push pointer token) = v.child? token := by
  obtain ⟨tokens, htokens, hdescend⟩ := lookup?_eq_some_iff.mp h
  have hfold : root.descend? (tokens ++ [token]) = (root.descend? tokens).bind (·.child? token) := by
    simp [descend?, List.foldlM_append]
  rw [lookup?, Pointer.tokens?_push htokens, Option.bind_some, hfold, hdescend, Option.bind_some]

theorem child?_of_get? {key : String} (h : v.get? key = some w) : v.child? key = some w := by
  cases v with
  | object members => exact h
  | _ => contradiction

theorem lookup?_push_get? {key : String} (h : root.lookup? pointer = some v)
    (hkey : v.get? key = some w) : root.lookup? (Pointer.push pointer key) = some w :=
  (lookup?_push h key).trans (child?_of_get? hkey)

theorem lookup?_push_item {items : List Json} {i : Nat}
    (h : root.lookup? pointer = some (.array items)) (hi : items[i]? = some w)
    (hword : i < UInt64.size) : root.lookup? (Pointer.push pointer (toString i)) = some w := by
  rw [lookup?_push h, child?, Pointer.index?_toString hword, Option.bind_some, hi]

theorem lookup?_of_target? {s : String} (hpointer : referencePointer? s = some pointer)
    (h : root.target? s = some v) : root.lookup? pointer = some v := by
  rwa [target?, hpointer, Option.bind_some] at h

/-- A local reference is a number sign and a pointer that is not the one to the root. -/
theorem exists_pointer_of_isLocalReference {s : String} (h : isLocalReference s = true) :
    ∃ (pointer : Pointer) (token : String) (tokens : List String), s = "#" ++ pointer ∧
      referencePointer? s = some pointer ∧ pointer.tokens? = some (token :: tokens) := by
  obtain ⟨rest, hrest⟩ := List.isPrefixOf_iff_prefix.mp h
  obtain ⟨piece, pieces, hpieces⟩ :=
    List.exists_cons_of_ne_nil (Text.splitChars_ne_nil '/' rest)
  refine ⟨String.ofList ('/' :: rest), String.ofList (Pointer.unescapeChars piece),
    pieces.map fun t => String.ofList (Pointer.unescapeChars t), ?_, ?_, ?_⟩
  · apply String.toList_injective
    rw [← hrest, String.toList_append, @String.toList_ofList ('/' :: rest)]
    rfl
  · rw [referencePointer?, ← hrest]
    rfl
  · rw [Pointer.tokens?, String.toList_ofList]
    simp only [hpieces, List.map_cons]

/-- A pointer to the member with a key of an object: the key is its last token, and the tokens
before it lead to the object. -/
def MemberAt (root : Json) (pointer : Pointer) (key : String) (v : Json) : Prop :=
  ∃ parent tokens members, pointer = Pointer.push parent key ∧ parent.tokens? = some tokens ∧
    pointer.tokens? = some (tokens ++ [key]) ∧ root.lookup? parent = some (.object members) ∧
    Keyed.get? members key = some v ∧ root.lookup? pointer = some v

theorem memberAt_push {key : String} (h : root.lookup? pointer = some v)
    (hkey : v.get? key = some w) : MemberAt root (Pointer.push pointer key) key w := by
  obtain ⟨tokens, htokens, -⟩ := lookup?_eq_some_iff.mp h
  cases v with
  | object members =>
      exact ⟨pointer, tokens, members, rfl, htokens, Pointer.tokens?_push htokens key, h, hkey,
        lookup?_push_get? h hkey⟩
  | _ => contradiction

end Lookup

section Trees

theorem IsTree.child? {v w : Json} {token : String} (h : v.IsTree) (hw : v.child? token = some w) :
    w.IsTree := by
  cases h with
  | object keys parts => exact parts _ (Keyed.mem_of_get? hw)
  | array parts =>
      obtain ⟨i, _, hi⟩ := Option.bind_eq_some_iff.mp hw
      exact parts w (List.mem_of_getElem? hi)
  | _ => contradiction

theorem IsTree.descend? {v w : Json} {tokens : List String} (h : v.IsTree)
    (hw : v.descend? tokens = some w) : w.IsTree := by
  induction tokens generalizing v with
  | nil =>
      obtain rfl := Option.some.inj hw
      exact h
  | cons token rest ih =>
      obtain ⟨u, hu, hw⟩ := Option.bind_eq_some_iff.mp hw
      exact ih (h.child? hu) hw

theorem IsTree.target? {root target : Json} {s : String} (h : root.IsTree)
    (htarget : root.target? s = some target) : target.IsTree := by
  obtain ⟨pointer, _, hlookup⟩ := Option.bind_eq_some_iff.mp htarget
  obtain ⟨tokens, _, hdescend⟩ := Option.bind_eq_some_iff.mp hlookup
  exact h.descend? hdescend

end Trees

/-- The values of which no array has more items than there are words to count them. -/
inductive IsCounted : Json → Prop
  | null : IsCounted .null
  | bool (b) : IsCounted (.bool b)
  | number (n) : IsCounted (.number n)
  | string (s) : IsCounted (.string s)
  | array {items} (length : items.length ≤ UInt64.size) (parts : ∀ v ∈ items, IsCounted v) :
      IsCounted (.array items)
  | object {members} (parts : ∀ m ∈ members, IsCounted m.2) : IsCounted (.object members)

attribute [simp] IsCounted.null IsCounted.bool IsCounted.number IsCounted.string

section Counted

variable {v w : Json}

@[simp] theorem isCounted_array {items : List Json} : (array items).IsCounted ↔
    items.length ≤ UInt64.size ∧ ∀ v ∈ items, v.IsCounted := by
  constructor
  · rintro (_ | _ | _ | _ | ⟨length, parts⟩)
    exact ⟨length, parts⟩
  · rintro ⟨length, parts⟩
    exact IsCounted.array length parts

@[simp] theorem isCounted_object {members : Members} :
    (object members).IsCounted ↔ ∀ m ∈ members, m.2.IsCounted := by
  constructor
  · rintro (_ | _ | _ | _ | _ | parts)
    exact parts
  · exact IsCounted.object

theorem IsCounted.child? {token : String} (h : v.IsCounted) (hw : v.child? token = some w) :
    w.IsCounted := by
  cases h with
  | array _ parts =>
      obtain ⟨i, -, hi⟩ := Option.bind_eq_some_iff.mp hw
      exact parts w (List.mem_of_getElem? hi)
  | object parts => exact parts _ (Keyed.mem_of_get? hw)
  | _ => contradiction

theorem IsCounted.descend? {tokens : List String} (h : v.IsCounted)
    (hw : v.descend? tokens = some w) : w.IsCounted := by
  induction tokens generalizing v with
  | nil =>
      obtain rfl := Option.some.inj hw
      exact h
  | cons token rest ih =>
      obtain ⟨u, hu, hw⟩ := Option.bind_eq_some_iff.mp hw
      exact ih (h.child? hu) hw

end Counted

end ApiScreens.Json
