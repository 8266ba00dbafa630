import ApiScreens.Proofs.Document.FaultPlaces
import Mathlib.Data.List.Chain

/-!
# Refused references are refused rightly

A reference is refused because it leaves the document or names nothing in it, or because it comes
back to one of the references that have led to it. The chain that is reported then is a way through
the document, and the node that would be replaced has no unfolding.
-/

namespace ApiScreens.Reference

open Json (Pointer)
open Relation (ReflTransGen)

/-- A walk through the arrays of a value, and through its objects that are no references, comes to a
node that is the reference. -/
def Mentions (v : Json) (s : String) : Prop :=
  ∃ place x, ReflTransGen Contains (place, v) x ∧ x.2.reference? = some s

/-- What a reference names mentions another one. -/
def Refers (root : Json) (s t : String) : Prop :=
  ∃ target, root.target? s = some target ∧ Mentions target t

/-- A chain of references from the root on, the last of which mentions one of the chain again. -/
structure IsCircle (root : Json) (chain : List String) (s : String) : Prop where
  repeats : s ∈ chain
  begins : ∀ first ∈ chain.head?, Mentions root first
  steps : (chain ++ [s]).IsChain (Refers root)

section Trails

variable {root : Json} {chain : List String} {x y : Pointer × Json} {s : String}

theorem Trail.exists_target (h : Trail root chain x) (hs : s ∈ chain) :
    ∃ target, root.target? s = some target := by
  induction h with
  | start => contradiction
  | follow _ _ _ _ hfound ih =>
      rcases List.mem_append.mp hs with hs | hs
      · exact ih hs
      · exact ⟨_, List.mem_singleton.mp hs ▸ hfound⟩

/-- A chain that leads to a value goes on with every reference that the value mentions. -/
theorem Trail.isChain (h : Trail root chain x) (hs : Mentions x.2 s) :
    (∀ first ∈ (chain ++ [s]).head?, Mentions root first) ∧
      (chain ++ [s]).IsChain (Refers root) := by
  induction h generalizing s with
  | start =>
      refine ⟨?_, List.isChain_singleton s⟩
      rintro first ⟨⟩
      exact hs
  | @follow chain x y t pointer target _ hinside href _ hfound ih =>
      obtain ⟨hbegins, hsteps⟩ := ih ⟨x.1, y, hinside, href⟩
      constructor
      · intro first hfirst
        apply hbegins
        rwa [List.head?_append_of_ne_nil _ (by simp)] at hfirst
      · refine List.isChain_append.mpr ⟨hsteps, List.isChain_singleton s, ?_⟩
        intro last hlast next hnext
        rw [List.getLast?_concat] at hlast
        obtain rfl := Option.some.inj hlast
        obtain rfl := Option.some.inj hnext
        exact ⟨target, hfound, hs⟩

theorem isCircle_of_trail (h : Trail root chain x) (hs : Mentions x.2 s) (hmem : s ∈ chain) :
    IsCircle root chain s := by
  obtain ⟨hbegins, hsteps⟩ := h.isChain hs
  refine ⟨hmem, ?_, hsteps⟩
  intro first hfirst
  apply hbegins
  rwa [List.head?_append_of_ne_nil _ (List.ne_nil_of_mem hmem)]

theorem needs_of_contains (h : ReflTransGen Contains x y) :
    ReflTransGen (Needs root) x.2 y.2 := by
  refine h.lift Prod.snd ?_
  intro u w hstep
  cases hstep with
  | item hfound => exact Needs.item (List.mem_of_getElem? hfound)
  | @member place members m hplain hm => exact @Needs.member root members m hplain hm

theorem needs_target {v target : Json} (href : v.reference? = some s)
    (hfound : root.target? s = some target) : Needs root v target := by
  cases v with
  | object members => exact Needs.target href hfound
  | _ => contradiction

theorem LeadsTo.inside (h : LeadsTo root chain x.2) (hinside : ReflTransGen Contains x y) :
    LeadsTo root chain y.2 :=
  fun t ht target htarget => (h t ht target htarget).trans (needs_of_contains hinside)

/-- Every reference of a chain has led to the value at its end. -/
theorem Trail.leadsTo (h : Trail root chain x) : LeadsTo root chain x.2 := by
  induction h with
  | start => exact nofun
  | follow _ hinside href _ hfound ih =>
      exact (ih.inside hinside).append (needs_target href hfound) hfound

/-- A reference that comes back to one of its chain has no unfolding. -/
theorem Trail.not_unfolds (h : Trail root chain x) (hinside : ReflTransGen Contains x y)
    (href : y.2.reference? = some s) (hmem : s ∈ chain) : ¬ ∃ r, Unfolds root y.2 r := by
  rintro ⟨r, hr⟩
  obtain ⟨target, htarget⟩ := h.exists_target hmem
  exact (h.leadsTo.inside hinside).not_mem (needs_target href htarget) htarget
    (hr.of_reference href htarget) hmem

end Trails

section Texts

variable {s : String}

theorem isLocalReference_iff : Json.isLocalReference s = true ↔ "#/".toList <+: s.toList :=
  List.isPrefixOf_iff_prefix

/-- A local reference without a target is a number sign and a pointer that leads nowhere. -/
theorem exists_pointer_of_missing {root : Json} (hlocal : Json.isLocalReference s = true)
    (hmissing : root.target? s = none) :
    ∃ pointer : Pointer, s = "#" ++ pointer ∧ root.lookup? pointer = none := by
  obtain ⟨pointer, _, _, hs, hpointer, _⟩ := Json.exists_pointer_of_isLocalReference hlocal
  refine ⟨pointer, hs, ?_⟩
  rwa [Json.target?, hpointer] at hmissing

end Texts

/-- The fault that stops the replacement of references is reported at the member that holds the
reference it is about. An external reference does not begin as local ones do, or the pointer in it
leads nowhere. A circular one ends the chain that the message lists: the chain begins in the root,
each reference after the first is mentioned by what the one before names, the last is there before,
and its node has no unfolding. -/
theorem resolve_errors_genuine {root : Json} {d : Diagnostic} (htree : root.IsTree)
    (hcounted : root.IsCounted) (h : resolve root = .error d) :
    ∃ place node s, d.pointer = some (Pointer.push place "$ref") ∧
      root.lookup? place = some node ∧ node.reference? = some s ∧
      root.lookup? (Pointer.push place "$ref") = some (.string s) ∧
      (d.code = .externalRef ∧
          (¬ "#/".toList <+: s.toList ∨
            ∃ pointer : Pointer, s = "#" ++ pointer ∧ root.lookup? pointer = none) ∨
        d.code = .circularRef ∧ ∃ chain,
          d.message = "circular reference: " ++ String.intercalate " -> " (chain ++ [s]) ∧
          IsCircle root chain s ∧ ¬ ∃ r, Unfolds root node r) := by
  obtain ⟨chain, x, ⟨place, node⟩, s, e, htrail, hinside, href, hrefuses, rfl⟩ :=
    exists_trail_of_error h
  have hlookup := Json.lookup?_of_reaches htree hcounted
    (htrail.reaches.trans (reaches_of_contains hinside))
  refine ⟨place, node, s, rfl, hlookup, href,
    Json.lookup?_push_get? hlookup (reference?_eq_some_iff.mp href), ?_⟩
  cases hrefuses with
  | external houtside =>
      refine Or.inl ⟨rfl, Or.inl ?_⟩
      rw [← isLocalReference_iff, houtside]
      exact Bool.false_ne_true
  | dangling hlocal hmissing =>
      exact Or.inl ⟨rfl, Or.inr (exists_pointer_of_missing hlocal hmissing)⟩
  | circular hmem =>
      exact Or.inr ⟨rfl, chain, rfl, isCircle_of_trail htrail ⟨x.1, _, hinside, href⟩ hmem,
        htrail.not_unfolds hinside href hmem⟩

/-- Two components that mention each other, each inside another value. -/
def circularDocument : Json :=
  .object [("a", .array [.null, .object [("$ref", .string "#/b~1c")]]),
    ("b/c", .object [("d", .object [("$ref", .string "#/a")])])]

theorem resolve_errors_genuine_circular :
    circularDocument.IsTree ∧ circularDocument.IsCounted ∧ ∃ d node s chain,
      resolve circularDocument = .error d ∧ d.pointer = some "/a/1/$ref" ∧
        d.message = "circular reference: #/b~1c -> #/a -> #/b~1c" ∧
        circularDocument.lookup? "/a/1/$ref" = some (.string s) ∧ node.reference? = some s ∧
        d.message = "circular reference: " ++ String.intercalate " -> " (chain ++ [s]) ∧
        IsCircle circularDocument chain s ∧ ¬ ∃ r, Unfolds circularDocument node r := by
  have htree : circularDocument.IsTree := by decide +kernel
  have hcounted : circularDocument.IsCounted := by simp [circularDocument, UInt64.size]
  have hresolve : resolve circularDocument =
      .error ((ReferenceError.circular ["#/b~1c", "#/a", "#/b~1c"]).diagnostic "/a/1") := by
    decide +kernel
  obtain ⟨d, hd, hcode, hmessage, hplace⟩ : ∃ d, resolve circularDocument = .error d ∧
      d.code = .circularRef ∧ d.message = "circular reference: #/b~1c -> #/a -> #/b~1c" ∧
      d.pointer = some "/a/1/$ref" :=
    ⟨_, hresolve, by decide +kernel, by decide +kernel, by decide +kernel⟩
  obtain ⟨place, node, s, hpointer, -, href, hstring, hcause⟩ :=
    resolve_errors_genuine htree hcounted hd
  rw [Option.some.inj (hpointer.symm.trans hplace)] at hstring
  obtain ⟨hexternal, -⟩ | ⟨-, chain, hlisted, hcircle, hunfolds⟩ := hcause
  · exact FaultCode.noConfusion (hcode.symm.trans hexternal)
  · exact ⟨htree, hcounted, d, node, s, chain, hd, hplace, hmessage, hstring, href, hlisted,
      hcircle, hunfolds⟩

end ApiScreens.Reference
