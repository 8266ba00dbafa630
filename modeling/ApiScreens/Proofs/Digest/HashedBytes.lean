import ApiScreens.Proofs.Api.WrittenModel
import ApiScreens.Proofs.Document.CanonicalForm

/-!
# What hashes are taken of

A hash is taken of the bytes of a canonical text. Canonical texts tell trees apart, however these
are nested and whatever quotes, commas and brackets their texts hold, and so do the bytes. So
different canonical forms and different models are never hashed from the same bytes.
-/

namespace ApiScreens

namespace Sha256

theorem get!_eq_getElem (bytes : ByteArray) (i : Nat) (h : i < bytes.data.toList.length) :
    bytes.get! i = bytes.data.toList[i] := by
  cases bytes with
  | mk data => exact getElem!_pos data i h

/-- Reading a byte array from an index on puts its bytes from there behind those read before. -/
theorem toList_loop (bytes : ByteArray) (i : Nat) (before : List UInt8) :
    ByteArray.toList.loop bytes i before = before.reverse ++ bytes.data.toList.drop i := by
  -- The induction is on the bytes that are left.
  induction hleft : bytes.size - i generalizing i before with
  | zero =>
      have hend : bytes.size ≤ i := Nat.le_of_sub_eq_zero hleft
      rw [ByteArray.toList.loop, if_neg (Nat.not_lt.mpr hend), List.drop_eq_nil_of_le hend,
        List.append_nil]
  | succ left ih =>
      have hi : i < bytes.size := by omega
      have hrest : bytes.size - (i + 1) = left := by omega
      rw [ByteArray.toList.loop, if_pos hi, ih _ _ hrest, List.reverse_cons, List.append_assoc,
        List.drop_eq_getElem_cons (i := i) hi, get!_eq_getElem bytes i hi]
      rfl

theorem hashedBytes_inj {s t : String} : hashedBytes s = hashedBytes t ↔ s = t := by
  constructor
  · intro h
    unfold hashedBytes ByteArray.toList at h
    rw [toList_loop, toList_loop] at h
    exact String.toByteArray_inj.mp (ByteArray.ext (Array.toList_inj.mp h))
  · exact congrArg hashedBytes

end Sha256

open Canonical Sha256

/-- The content hash of a document and the stable hash of a value are taken of the bytes of their
canonical texts. Trees are told apart by these texts and bytes: of two documents the hashed bytes
are the same exactly if their canonical forms are, and of two models exactly if the models are. -/
theorem hashedBytes_canonicalText :
    (∀ v : Json, contentHash v = hex (hash (hashedBytes (text v))) ∧
      stableHash v = hex (hash (hashedBytes v.canonicalText))) ∧
    (∀ v w : Json, v.IsTree → w.IsTree →
      (v.canonicalText = w.canonicalText ↔ v = w) ∧
      (hashedBytes v.canonicalText = hashedBytes w.canonicalText ↔ v = w) ∧
      (hashedBytes (text v) = hashedBytes (text w) ↔ canonicalize v = canonicalize w)) ∧
    ∀ a b : ApiModel, a.HasTrees → b.HasTrees →
      (hashedBytes a.toJson.canonicalText = hashedBytes b.toJson.canonicalText ↔ a = b) := by
  have htrees {v w : Json} (hv : v.IsTree) (hw : w.IsTree) :
      v.canonicalText = w.canonicalText ↔ v = w :=
    ⟨hv.eq_of_canonicalText hw, congrArg Json.canonicalText⟩
  refine ⟨fun v => ⟨rfl, rfl⟩, ?trees, ?models⟩
  case trees =>
    intro v w hv hw
    refine ⟨htrees hv hw, hashedBytes_inj.trans (htrees hv hw), ?_⟩
    have hforms := htrees (same_canonicalize hv).isTree.1 (same_canonicalize hw).isTree.1
    exact hashedBytes_inj.trans hforms
  case models =>
    intro a b ha hb
    rw [hashedBytes_inj]
    exact ⟨ApiModel.eq_of_canonicalText ha hb, congrArg fun m : ApiModel => m.toJson.canonicalText⟩

/-- A text that holds the quotes and the comma between two members is not taken for the two, nor is
a schema of it for one of them. -/
theorem hashedBytes_canonicalText_quoted :
    let one : Json := .object [("a", .string "x\",\"b\":\"y")]
    let two : Json := .object [("a", .string "x"), ("b", .string "y")]
    let model (schema : Json) : ApiModel :=
      ⟨⟨"", ""⟩, [⟨"", "", [⟨"", .get, .list, "", none, some schema, .null⟩]⟩]⟩
    one.IsTree ∧ two.IsTree ∧ (model one).HasTrees ∧ (model two).HasTrees ∧
      hashedBytes one.canonicalText ≠ hashedBytes two.canonicalText ∧
      hashedBytes (text one) ≠ hashedBytes (text two) ∧
      hashedBytes (model one).toJson.canonicalText ≠
        hashedBytes (model two).toJson.canonicalText := by
  intro one two model
  have hone : one.IsTree := by decide
  have htwo : two.IsTree := by decide
  have hmodel {schema : Json} (h : schema.IsTree) : (model schema).HasTrees := by
    simpa [model, ApiModel.HasTrees, Operation.HasTrees, h] using Json.IsTree.null
  obtain ⟨-, hbytes, htexts⟩ := hashedBytes_canonicalText.2.1 one two hone htwo
  have hmodels := hashedBytes_canonicalText.2.2 (model one) (model two) (hmodel hone) (hmodel htwo)
  refine ⟨hone, htwo, hmodel hone, hmodel htwo, ?_, ?_, ?_⟩
  · exact hbytes.not.mpr (by decide)
  · exact htexts.not.mpr (by decide)
  · exact hmodels.not.mpr (by decide)

end ApiScreens
