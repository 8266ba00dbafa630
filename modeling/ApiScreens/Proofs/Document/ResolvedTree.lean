import ApiScreens.Compilation.Resolved
import ApiScreens.Proofs.Document.Unfolding
import ApiScreens.Proofs.Json.Location
import ApiScreens.Proofs.Yaml.Conversion

/-!
# Resolved documents are trees

Values that are read from JSON and YAML texts are trees, and replacing references by what they
stand for leaves them trees.
-/

namespace ApiScreens

theorem Json.isTree_of_read? {text : String} {v : Json} (h : read? text = some v) : v.IsTree := by
  obtain ⟨written, _, rfl⟩ := Option.map_eq_some_iff.mp h
  exact isTree_sorted written

namespace ParsedDocument

theorem isTree_of_readRoot {text : String} {format : Format} {v : Json}
    (h : readRoot text format = .ok v) : v.IsTree := by
  cases format with
  | json =>
      unfold readRoot at h
      cases hread : Json.read? text with
      | none =>
          rw [hread] at h
          contradiction
      | some w =>
          rw [hread] at h
          obtain rfl := Except.ok.inj h
          exact Json.isTree_of_read? hread
  | yaml =>
      unfold readRoot at h
      dsimp only at h
      split at h
      · exact Yaml.Value.isTree_of_toJson (mapError_eq_ok.mp h)
      · contradiction

theorem isTree_of_ofText {text : String} {d : ParsedDocument} (h : ofText text = .ok d) :
    d.root.IsTree := by
  unfold ofText at h
  split at h
  · contradiction
  · obtain ⟨root, hroot, h⟩ := bind_eq_ok.mp h
    have htree := isTree_of_readRoot hroot
    split at h
    · contradiction
    · obtain rfl := Except.ok.inj h
      exact htree
    · contradiction

end ParsedDocument

namespace Reference

/-- What a tree unfolds to in a tree is a tree. -/
theorem Unfolds.isTree {root v r : Json} (hroot : root.IsTree) (h : Unfolds root v r)
    (hv : v.IsTree) : r.IsTree := by
  induction h with
  | null | bool _ | number _ | string _ => exact hv
  | @array items items' hlength _ ih =>
      have hpairs := forall₂_items.mpr ⟨hlength, ih⟩
      apply Json.IsTree.array
      intro w hw
      obtain ⟨v, hmem, hvw⟩ := exists_of_forall₂ hpairs.flip hw
      exact hvw (Json.isTree_array.mp hv v hmem)
  | @object members members' _ hkeys _ ih =>
      obtain ⟨hascending, hparts⟩ := Json.isTree_object.mp hv
      have hpairs := forall₂_members.mpr ⟨hkeys, ih⟩
      apply Json.IsTree.object
      · have hsame := List.pairwise_map.mpr hascending
        rw [hkeys] at hsame
        exact List.pairwise_map.mp hsame
      · intro n hn
        obtain ⟨m, hm, _, hmn⟩ := exists_of_forall₂ hpairs.flip hn
        exact hmn (hparts m hm)
  | reference _ _ hfound _ ih => exact ih (hroot.target? hfound)

end Reference

namespace ResolvedDocument

theorem eq_of_checked {root root' : Json} (h : checked root = .ok root') : root' = root := by
  unfold checked at h
  split at h
  · exact (Except.ok.inj h).symm
  · contradiction

/-- The root of a resolved document is a tree. -/
theorem isTree_of_ofText {text : String} {d : ResolvedDocument} (h : ofText text = .ok d) :
    d.root.IsTree := by
  obtain ⟨parsed, hparsed, h⟩ := bind_eq_ok.mp h
  obtain ⟨root, hroot, h⟩ := bind_eq_ok.mp h
  obtain ⟨resolved, hresolved, h⟩ := bind_eq_ok.mp h
  obtain rfl := Except.ok.inj h
  have htree : root.IsTree := by
    rw [eq_of_checked hroot]
    exact ParsedDocument.isTree_of_ofText (mapError_eq_ok.mp hparsed)
  exact (Reference.unfolds_of_resolveAt (mapError_eq_ok.mp hresolved)).isTree htree htree

end ResolvedDocument

end ApiScreens
