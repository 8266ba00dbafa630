import ApiScreens.Proofs.Json.Location

/-!
# Pointers address the nodes that they are made for

Writing a token replaces first every `~` and then every slash, and reading it undoes both in the
opposite order. So a pointer that is made of tokens leads where the tokens lead one by one, whatever
characters they have, and different tokens make different pointers.
-/

namespace ApiScreens

namespace Text

/-- Puts a text in the place of every occurrence of a mark, from the front to the end. -/
def replaceAll (mark replacement : List Char) : List Char → List Char
  | [] => []
  | c :: rest =>
    if mark.isPrefixOf (c :: rest) then
      replacement ++ replaceAll mark replacement (rest.drop (mark.length - 1))
    else c :: replaceAll mark replacement rest
termination_by s => s.length
decreasing_by
  · simp only [List.length_drop, List.length_cons]
    omega
  · simp

variable {replacement : List Char}

theorem replaceAll_char (m : Char) (s : List Char) :
    replaceAll [m] replacement s = s.flatMap fun c => if c = m then replacement else [c] := by
  induction s with
  | nil => rw [replaceAll, List.flatMap_nil]
  | cons c rest ih =>
      rw [replaceAll, List.flatMap_cons, ← ih]
      by_cases hc : c = m
      · simp [hc]
      · simp [hc, Ne.symm hc]

theorem replaceAll_pair (m n : Char) (rest : List Char) :
    replaceAll [m, n] replacement (m :: n :: rest) =
      replacement ++ replaceAll [m, n] replacement rest := by
  rw [replaceAll]
  simp

theorem replaceAll_pair_of_not {m n c : Char} {rest : List Char}
    (h : c = m → rest.head? ≠ some n) :
    replaceAll [m, n] replacement (c :: rest) = c :: replaceAll [m, n] replacement rest := by
  rw [replaceAll, if_neg]
  intro hprefix
  cases rest <;> simp_all

end Text

namespace Json

namespace Pointer

open Text (replaceAll)

/-- A token is written by replacing every `~`, and then every slash. -/
theorem escapeChars_eq_replaceAll (token : List Char) :
    escapeChars token = replaceAll ['/'] ['~', '1'] (replaceAll ['~'] ['~', '0'] token) := by
  rw [Text.replaceAll_char, Text.replaceAll_char, List.flatMap_assoc]
  apply congrArg (fun f => List.flatMap f token)
  funext c
  by_cases htilde : c = '~'
  · subst htilde
    rfl
  · by_cases hslash : c = '/'
    · subst hslash
      rfl
    · simp [htilde, hslash]

/-- Where `~1` is replaced by a slash, no `0` comes to stand in front. -/
theorem head?_replaceAll_slash {s : List Char}
    (h : (replaceAll ['~', '1'] ['/'] s).head? = some '0') : s.head? = some '0' := by
  cases s with
  | nil => simp [replaceAll] at h
  | cons c rest =>
      by_cases hmark : c = '~' ∧ rest.head? = some '1'
      · obtain ⟨rfl, hone⟩ := hmark
        obtain ⟨rest, rfl⟩ := List.head?_eq_some_iff.mp hone
        simp [Text.replaceAll_pair] at h
      · rwa [Text.replaceAll_pair_of_not fun hc hone => hmark ⟨hc, hone⟩] at h

/-- A token is read by replacing every `~1`, and then every `~0`. -/
theorem unescapeChars_eq_replaceAll (token : List Char) :
    unescapeChars token = replaceAll ['~', '0'] ['~'] (replaceAll ['~', '1'] ['/'] token) := by
  fun_induction unescapeChars token with
  | case1 => simp [replaceAll]
  | case2 rest ih =>
      have hslashes : replaceAll ['~', '1'] ['/'] ('~' :: '0' :: rest) =
          '~' :: '0' :: replaceAll ['~', '1'] ['/'] rest := by
        rw [Text.replaceAll_pair_of_not (by simp), Text.replaceAll_pair_of_not (by simp)]
      rw [hslashes, Text.replaceAll_pair, List.singleton_append, ← ih]
  | case3 rest ih =>
      rw [Text.replaceAll_pair, List.singleton_append, Text.replaceAll_pair_of_not (by simp), ← ih]
  | case4 c rest hzero hone ih =>
      have hone' : c = '~' → rest.head? ≠ some '1' := by
        intro hc hhead
        obtain ⟨more, hmore⟩ := List.head?_eq_some_iff.mp hhead
        exact hone more hc hmore
      have hzero' : c = '~' → (replaceAll ['~', '1'] ['/'] rest).head? ≠ some '0' := by
        intro hc hhead
        obtain ⟨more, hmore⟩ := List.head?_eq_some_iff.mp (head?_replaceAll_slash hhead)
        exact hzero more hc hmore
      rw [Text.replaceAll_pair_of_not hone', Text.replaceAll_pair_of_not hzero', ← ih]

theorem unescape_escape (token : String) : unescape (escape token) = token := by
  simp [unescape, escape, unescapeChars_escapeChars]

/-- Any token that is pushed on a text that is no pointer leaves it none. -/
theorem tokens?_push_of_none {pointer : Pointer} (h : pointer.tokens? = none) (token : String) :
    (push pointer token).tokens? = none := by
  unfold tokens? at h ⊢
  rw [toList_push]
  cases hchars : pointer.toList with
  | nil => simp [hchars] at h
  | cons c rest =>
      rw [hchars] at h
      split at h
      · contradiction
      · contradiction
      · rename_i hslash
        split
        · rename_i hnil
          contradiction
        · rename_i more hcons
          obtain ⟨rfl, -⟩ := List.cons.inj hcons
          exact absurd rfl (hslash rest)
        · rfl

/-- The tokens that make up a pointer are its tokens. -/
theorem tokens?_ofTokens (tokens : List String) : (ofTokens tokens).tokens? = some tokens := by
  induction tokens using List.reverseRecOn with
  | nil => rfl
  | append_singleton tokens token ih =>
      have hpush : ofTokens (tokens ++ [token]) = push (ofTokens tokens) token :=
        List.foldl_append
      rw [hpush, tokens?_push ih]

theorem ofTokens_injective : Function.Injective ofTokens := by
  intro tokens tokens' h
  have hsome := tokens?_ofTokens tokens
  rw [h, tokens?_ofTokens] at hsome
  exact (Option.some.inj hsome).symm

/-- The token writes an index: decimal digits, perhaps after a plus sign, of a number that is a
word. -/
def Writes (token : String) (i : Nat) : Prop :=
  i < UInt64.size ∧ ∃ digits, digits ≠ [] ∧ Decimal.AllDigits digits ∧
    Decimal.digitsValue digits = i ∧ (token.toList = digits ∨ token.toList = '+' :: digits)

/-- The index that digits without a sign write. -/
def readIndex? (digits : List Char) : Option Nat :=
  if digits ≠ [] ∧ digits.all Char.isDigit ∧ Number.Literal.natOf digits < UInt64.size then
    some (Number.Literal.natOf digits)
  else none

theorem readIndex?_eq_some_iff {digits : List Char} {i : Nat} : readIndex? digits = some i ↔
    digits ≠ [] ∧ Decimal.AllDigits digits ∧ Decimal.digitsValue digits = i ∧
      i < UInt64.size := by
  have hvalue : Number.Literal.natOf digits = Decimal.digitsValue digits := rfl
  simp only [readIndex?, hvalue, List.all_eq_true, Option.ite_none_right_eq_some,
    Option.some.injEq, Decimal.AllDigits]
  constructor
  · rintro ⟨⟨hne, hdigits, hword⟩, rfl⟩
    exact ⟨hne, hdigits, rfl, hword⟩
  · rintro ⟨hne, hdigits, rfl, hword⟩
    exact ⟨⟨hne, hdigits, hword⟩, rfl⟩

theorem index?_eq_some_iff {token : String} {i : Nat} : index? token = some i ↔ Writes token i := by
  by_cases hplus : ∃ ds, token.toList = '+' :: ds
  · obtain ⟨ds, hds⟩ := hplus
    have hread : index? token = readIndex? ds := by
      simp only [index?, hds]
      rfl
    rw [hread, readIndex?_eq_some_iff]
    constructor
    · rintro ⟨hne, hdigits, hvalue, hword⟩
      exact ⟨hword, ds, hne, hdigits, hvalue, Or.inr hds⟩
    · rintro ⟨hword, digits, hne, hdigits, hvalue, htoken⟩
      rcases htoken with htoken | htoken
      · have hdigit := hdigits '+' (htoken ▸ hds ▸ List.mem_cons_self)
        contradiction
      · obtain ⟨-, rfl⟩ := List.cons.inj (hds.symm.trans htoken)
        exact ⟨hne, hdigits, hvalue, hword⟩
  · have hread : index? token = readIndex? token.toList := by
      simp only [index?]
      split
      · rename_i ds hds
        exact absurd ⟨ds, hds⟩ hplus
      · rfl
    rw [hread, readIndex?_eq_some_iff]
    constructor
    · rintro ⟨hne, hdigits, hvalue, hword⟩
      exact ⟨hword, token.toList, hne, hdigits, hvalue, Or.inl rfl⟩
    · rintro ⟨hword, digits, hne, hdigits, hvalue, htoken⟩
      rcases htoken with htoken | htoken
      · rw [htoken]
        exact ⟨hne, hdigits, hvalue, hword⟩
      · exact absurd ⟨digits, htoken⟩ hplus

end Pointer

/-- The child that a token names: the member of an object that has exactly this name, or the item of
an array at the index that the token writes. -/
inductive Child : Json → String → Json → Prop
  | member {members : Members} {name : String} {v : Json} (mem : (name, v) ∈ members) :
      Child (.object members) name v
  | item {items : List Json} {token : String} {i : Nat} {v : Json}
      (index : Pointer.Writes token i) (found : items[i]? = some v) : Child (.array items) token v

/-- What tokens lead to from a value, one after the other. -/
inductive Descends : Json → List String → Json → Prop
  | here (v) : Descends v [] v
  | child {v u w : Json} {token : String} {rest : List String} (child : Child v token u)
      (below : Descends u rest w) : Descends v (token :: rest) w

section Descent

variable {root v w : Json} {token : String} {tokens : List String}

theorem child?_eq_some_iff (h : v.IsTree) : v.child? token = some w ↔ Child v token w := by
  constructor
  · intro hchild
    cases v with
    | object members => exact Child.member (Keyed.mem_of_get? hchild)
    | array items =>
        obtain ⟨i, hindex, hfound⟩ := Option.bind_eq_some_iff.mp hchild
        exact Child.item (Pointer.index?_eq_some_iff.mp hindex) hfound
    | _ => contradiction
  · intro hchild
    cases hchild with
    | member hmem => exact (Keyed.get?_eq_some_iff (isTree_object.mp h).1).mpr hmem
    | item hindex hfound =>
        exact Option.bind_eq_some_iff.mpr ⟨_, Pointer.index?_eq_some_iff.mpr hindex, hfound⟩

theorem descend?_eq_some_iff (h : v.IsTree) :
    v.descend? tokens = some w ↔ Descends v tokens w := by
  induction tokens generalizing v with
  | nil =>
      constructor
      · intro hdescend
        obtain rfl := Option.some.inj hdescend
        exact Descends.here v
      · rintro (_ | _)
        rfl
  | cons token rest ih =>
      have hstep : v.descend? (token :: rest) = (v.child? token).bind (·.descend? rest) := rfl
      rw [hstep, Option.bind_eq_some_iff]
      constructor
      · rintro ⟨u, hchild, hbelow⟩
        exact Descends.child ((child?_eq_some_iff h).mp hchild) ((ih (h.child? hchild)).mp hbelow)
      · rintro (_ | ⟨hchild, hbelow⟩)
        have hchild' := (child?_eq_some_iff h).mpr hchild
        exact ⟨_, hchild', (ih (h.child? hchild')).mpr hbelow⟩

/-- A token that is pushed on a pointer leads to the child of what the pointer leads to. -/
theorem lookup?_push_eq (root : Json) (pointer : Pointer) (token : String) :
    root.lookup? (Pointer.push pointer token) =
      (root.lookup? pointer).bind (·.child? token) := by
  cases hlookup : root.lookup? pointer with
  | some v => exact lookup?_push hlookup token
  | none =>
      cases htokens : pointer.tokens? with
      | none => rw [lookup?, Pointer.tokens?_push_of_none htokens]; rfl
      | some tokens =>
          rw [lookup?, htokens] at hlookup
          have hnone : root.descend? tokens = none := hlookup
          have hfold : root.descend? (tokens ++ [token]) =
              (root.descend? tokens).bind (·.child? token) := by
            simp [descend?, List.foldlM_append]
          rw [lookup?, Pointer.tokens?_push htokens, Option.bind_some, hfold, hnone]

end Descent

/-- A pointer that is made of tokens leads exactly where the tokens descend, and other tokens make
another pointer; a token that is pushed on any pointer leads exactly to the child that it names.
What is written for a token reads as the token; writing it replaces every `~` before every slash,
and reading it every `~1` before every `~0`. -/
theorem pointers_lead_where_made {root : Json} (htree : root.IsTree) :
    (∀ tokens v, root.lookup? (Pointer.ofTokens tokens) = some v ↔ Descends root tokens v) ∧
    (∀ token, Pointer.unescape (Pointer.escape token) = token) ∧
    Function.Injective Pointer.ofTokens ∧
    (∀ pointer token v, root.lookup? (Pointer.push pointer token) = some v ↔
      ∃ u, root.lookup? pointer = some u ∧ Child u token v) ∧
    ∀ token : String,
      (Pointer.escape token).toList =
        Text.replaceAll ['/'] ['~', '1'] (Text.replaceAll ['~'] ['~', '0'] token.toList) ∧
      (Pointer.unescape token).toList =
        Text.replaceAll ['~', '0'] ['~'] (Text.replaceAll ['~', '1'] ['/'] token.toList) := by
  refine ⟨?_, Pointer.unescape_escape, Pointer.ofTokens_injective, ?_, ?_⟩
  · intro tokens v
    rw [lookup?, Pointer.tokens?_ofTokens, Option.bind_some, descend?_eq_some_iff htree]
  · intro pointer token v
    rw [lookup?_push_eq, Option.bind_eq_some_iff]
    apply exists_congr
    intro u
    apply and_congr_right
    intro hu
    obtain ⟨tokens, -, hdescend⟩ := lookup?_eq_some_iff.mp hu
    exact child?_eq_some_iff (htree.descend? hdescend)
  · intro token
    rw [Pointer.escape, Pointer.unescape, String.toList_ofList, String.toList_ofList]
    exact ⟨Pointer.escapeChars_eq_replaceAll _, Pointer.unescapeChars_eq_replaceAll _⟩

/-- Keys that are empty or hold slashes and tildes, and an index with a sign, are found again. -/
theorem pointers_lead_where_made_tangled :
    let root : Json :=
      .object [("", .array [.null, .object [("a/b", .bool false)]]), ("~1", .bool true)]
    root.IsTree ∧ Pointer.ofTokens ["~1"] = "/~01" ∧
      root.lookup? (Pointer.ofTokens ["~1"]) = some (.bool true) ∧
      root.lookup? (Pointer.ofTokens ["", "+01", "a/b"]) = some (.bool false) ∧
      root.lookup? (Pointer.push "//1" "a/b") = some (.bool false) := by
  intro root
  have htree : root.IsTree := by decide
  obtain ⟨hmade, -, -, hpush, -⟩ := pointers_lead_where_made htree
  have hindex : Pointer.Writes "+01" 1 :=
    ⟨by decide, ['0', '1'], nofun, by simp [Decimal.AllDigits], rfl, Or.inr rfl⟩
  have hmember : Child (.object [("a/b", .bool false)]) "a/b" (.bool false) :=
    Child.member List.mem_cons_self
  refine ⟨htree, by decide, ?_, ?_, ?_⟩
  · rw [hmade]
    exact Descends.child (Child.member (by simp)) (Descends.here _)
  · rw [hmade]
    exact Descends.child (Child.member List.mem_cons_self)
      (Descends.child (Child.item hindex rfl) (Descends.child hmember (Descends.here _)))
  · rw [hpush]
    exact ⟨_, by decide, hmember⟩

end Json

end ApiScreens
