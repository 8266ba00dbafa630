import ApiScreens.Proofs.Text.Slug

/-!
# Groups of slugs

A slug is made of the groups of letters and digits of its text: in lower case and in their order,
with one hyphen before each but the first. So slugs are exactly the texts of this form, and each is
its own slug.
-/

namespace ApiScreens.Text

/-- Whether the character is a small ASCII letter or a digit. -/
def isGroupChar (c : Char) : Bool := c.isLower || c.isDigit

/-- Groups of small ASCII letters and digits with single hyphens between them. -/
def IsSlug (s : String) : Prop :=
  ∃ gs : List (List Char), gs ≠ [] ∧ (∀ g ∈ gs, g ≠ [] ∧ ∀ c ∈ g, isGroupChar c = true) ∧
    s.toList = ['-'].intercalate gs

section Characters

variable {c : Char}

theorem isGroupChar_iff : isGroupChar c = true ↔
    48 ≤ c.toNat ∧ c.toNat ≤ 57 ∨ 97 ≤ c.toNat ∧ c.toNat ≤ 122 := by
  have hlower : c.isLower = true ↔ 97 ≤ c.toNat ∧ c.toNat ≤ 122 := by
    delta Char.isLower
    simp [UInt32.le_iff_toNat_le]
  rw [isGroupChar, Bool.or_eq_true, hlower, isDigit_iff]
  exact or_comm

theorem isSlugChar_of_isGroupChar (h : isGroupChar c = true) : isSlugChar c = true := by
  rw [isGroupChar_iff] at h
  rw [isSlugChar_iff]
  omega

theorem isGroupChar_asciiLowercase (h : isSlugChar c = true) :
    isGroupChar (asciiLowercase c) = true := by
  rw [isSlugChar_iff] at h
  rw [isGroupChar_iff, toNat_asciiLowercase]
  split <;> omega

theorem asciiLowercase_of_isGroupChar (h : isGroupChar c = true) : asciiLowercase c = c := by
  rw [isGroupChar_iff] at h
  rw [← Char.toNat_inj, toNat_asciiLowercase, if_neg (by omega)]

end Characters

section Groups

/-- The pieces of a text between characters that are no letters or digits; some are empty. -/
def slugPieces (cs : List Char) : List (List Char) := cs.splitOnP fun c => !isSlugChar c

/-- The groups of letters and digits of a text. -/
def slugGroups (cs : List Char) : List (List Char) := (slugPieces cs).filter fun g => !g.isEmpty

variable {c : Char} {cs : List Char}

theorem slugPieces_cons_of_not (h : isSlugChar c = false) :
    slugPieces (c :: cs) = [] :: slugPieces cs := by
  simp [slugPieces, List.splitOnP_cons_eq_if_modifyHead, h]

theorem slugPieces_cons {head : List Char} {tail : List (List Char)} (h : isSlugChar c = true)
    (hcs : slugPieces cs = head :: tail) : slugPieces (c :: cs) = (c :: head) :: tail := by
  unfold slugPieces at hcs ⊢
  rw [List.splitOnP_cons_eq_if_modifyHead, hcs]
  simp [h]

theorem exists_slugPieces (cs : List Char) : ∃ head tail, slugPieces cs = head :: tail :=
  List.exists_cons_of_ne_nil (List.splitOnP_ne_nil _ cs)

theorem forall_mem_slugPieces (cs : List Char) :
    ∀ piece ∈ slugPieces cs, ∀ c ∈ piece, isSlugChar c = true := by
  induction cs with
  | nil => simp [slugPieces]
  | cons c rest ih =>
      obtain ⟨head, tail, hrest⟩ := exists_slugPieces rest
      rw [hrest] at ih
      cases hc : isSlugChar c with
      | false =>
          rw [slugPieces_cons_of_not hc, hrest]
          exact List.forall_mem_cons.mpr ⟨List.forall_mem_nil _, ih⟩
      | true =>
          obtain ⟨hhead, htail⟩ := List.forall_mem_cons.mp ih
          rw [slugPieces_cons hc hrest]
          exact List.forall_mem_cons.mpr ⟨List.forall_mem_cons.mpr ⟨hc, hhead⟩, htail⟩

theorem forall_mem_slugGroups {g : List Char} (h : g ∈ slugGroups cs) :
    g ≠ [] ∧ ∀ c ∈ g, isSlugChar c = true := by
  obtain ⟨hpiece, hne⟩ := List.mem_filter.mp h
  exact ⟨by simpa using hne, forall_mem_slugPieces cs g hpiece⟩

/-- Groups in lower case with a hyphen before each. -/
def hyphened (pieces : List (List Char)) : List Char :=
  (pieces.filter fun g => !g.isEmpty).flatMap fun g => '-' :: g.map asciiLowercase

theorem intercalate_cons (g : List Char) (gs : List (List Char)) :
    ['-'].intercalate (g :: gs) = g ++ gs.flatMap fun g => '-' :: g := by
  induction gs generalizing g with
  | nil => simp
  | cons g' gs ih => simp [List.intercalate_cons_cons, ih]

/-- Once a slug has begun, it goes on with the group that is being written, or with the next one
after a hyphen. -/
theorem slugChars_begun (pending : Bool) {head : List Char} {tail : List (List Char)}
    (h : slugPieces cs = head :: tail) : slugChars true pending cs =
      if pending then hyphened (head :: tail) else head.map asciiLowercase ++ hyphened tail := by
  induction cs generalizing pending head tail with
  | nil =>
      obtain ⟨rfl, rfl⟩ := List.cons.inj h
      cases pending <;> rfl
  | cons c rest ih =>
      obtain ⟨head', tail', hrest⟩ := exists_slugPieces rest
      cases hc : isSlugChar c with
      | false =>
          rw [slugPieces_cons_of_not hc, hrest] at h
          obtain ⟨rfl, rfl⟩ := List.cons.inj h
          rw [slugChars, hc, if_neg Bool.false_ne_true, ih true hrest]
          cases pending <;> simp [hyphened]
      | true =>
          rw [slugPieces_cons hc hrest] at h
          obtain ⟨rfl, rfl⟩ := List.cons.inj h
          rw [slugChars, if_pos hc, ih false hrest]
          cases pending <;> simp [hyphened]

/-- What is written of a text are its groups, in lower case, with hyphens between them. -/
theorem slugChars_eq_intercalate (cs : List Char) : slugChars false false cs =
    ['-'].intercalate ((slugGroups cs).map fun g => g.map asciiLowercase) := by
  induction cs with
  | nil => rfl
  | cons c rest ih =>
      obtain ⟨head, tail, hrest⟩ := exists_slugPieces rest
      cases hc : isSlugChar c with
      | false =>
          have hgroups : slugGroups (c :: rest) = slugGroups rest := by
            simp [slugGroups, slugPieces_cons_of_not hc]
          rw [slugChars, hc, if_neg Bool.false_ne_true, slugChars_not_begun, ih, hgroups]
      | true =>
          have hgroups : slugGroups (c :: rest) =
              (c :: head) :: tail.filter fun g => !g.isEmpty := by
            simp [slugGroups, slugPieces_cons hc hrest]
          rw [slugChars, if_pos hc, slugChars_begun false hrest, hgroups, List.map_cons,
            intercalate_cons]
          simp [hyphened, List.flatMap_map]

/-- Groups with hyphens between them are found again. -/
theorem slugGroups_intercalate {gs : List (List Char)}
    (h : ∀ g ∈ gs, g ≠ [] ∧ ∀ c ∈ g, isSlugChar c = true) :
    slugGroups (['-'].intercalate gs) = gs := by
  induction gs with
  | nil => rfl
  | cons g gs ih =>
      obtain ⟨⟨hne, hg⟩, hgs⟩ := List.forall_mem_cons.mp h
      have hinside : ∀ c ∈ g, (!isSlugChar c) = false := fun c hc => by rw [hg c hc, Bool.not_true]
      cases gs with
      | nil =>
          rw [List.intercalate_singleton, slugGroups, slugPieces,
            List.splitOnP_eq_singleton hinside]
          simp [hne]
      | cons g' gs =>
          have hsplit : slugPieces (g ++ '-' :: ['-'].intercalate (g' :: gs)) =
              g :: slugPieces (['-'].intercalate (g' :: gs)) :=
            List.splitOnP_append_cons_of_forall_mem hinside '-' rfl _
          have hfound := ih hgs
          unfold slugGroups at hfound ⊢
          rw [List.intercalate_cons_cons, List.append_assoc, List.singleton_append, hsplit,
            List.filter_cons_of_pos (by simpa using hne), hfound]

end Groups

section Slugs

variable {s : String}

/-- A single group is a slug. -/
theorem isSlug_of_group (hne : s.toList ≠ []) (h : ∀ c ∈ s.toList, isGroupChar c = true) :
    IsSlug s := by
  refine ⟨[s.toList], List.cons_ne_nil _ _, ?_, List.intercalate_singleton.symm⟩
  intro g hg
  obtain rfl := List.mem_singleton.mp hg
  exact ⟨hne, h⟩

theorem isSlug_slug (s : String) : IsSlug (slug s) := by
  unfold slug
  dsimp only
  split
  · exact isSlug_of_group (by decide) (by simp [isGroupChar])
  · rename_i hsome
    rw [slugChars_eq_intercalate] at hsome ⊢
    refine ⟨_, ?_, ?_, String.toList_ofList⟩
    · rintro hnone
      rw [hnone] at hsome
      exact hsome rfl
    · intro g hg
      obtain ⟨group, hgroup, rfl⟩ := List.mem_map.mp hg
      obtain ⟨hne, hchars⟩ := forall_mem_slugGroups hgroup
      refine ⟨by simpa using hne, fun c hc => ?_⟩
      obtain ⟨d, hd, rfl⟩ := List.mem_map.mp hc
      exact isGroupChar_asciiLowercase (hchars d hd)

theorem IsSlug.ne_empty (h : IsSlug s) : s ≠ "" := by
  rintro rfl
  obtain ⟨gs, hne, hgs, hs⟩ := h
  obtain ⟨g, rest, rfl⟩ := List.exists_cons_of_ne_nil hne
  rw [intercalate_cons] at hs
  exact (hgs g List.mem_cons_self).1 (List.append_eq_nil_iff.mp hs.symm).1

/-- Slugs are their own slugs. -/
theorem IsSlug.slug_eq_self (h : IsSlug s) : slug s = s := by
  have hempty := h.ne_empty
  obtain ⟨gs, hne, hgs, hs⟩ := h
  have hgroups : slugGroups s.toList = gs := by
    rw [hs]
    exact slugGroups_intercalate fun g hg =>
      ⟨(hgs g hg).1, fun c hc => isSlugChar_of_isGroupChar ((hgs g hg).2 c hc)⟩
  have hsmall (g : List Char) (hg : g ∈ gs) : g.map asciiLowercase = g :=
    (List.map_congr_left fun c hc => asciiLowercase_of_isGroupChar ((hgs g hg).2 c hc)).trans
      (List.map_id' g)
  have hchars : slugChars false false s.toList = s.toList := by
    rw [slugChars_eq_intercalate, hgroups, List.map_congr_left hsmall, List.map_id', hs]
  rw [slug, hchars, if_neg (by simpa using hempty), String.ofList_toList]

/-- Slugs are the texts of groups with single hyphens between them. -/
theorem slug_eq_self_iff : slug s = s ↔ IsSlug s :=
  ⟨fun h => h ▸ isSlug_slug s, IsSlug.slug_eq_self⟩

/-- A slug has no characters but small ASCII letters, digits and hyphens. -/
theorem IsSlug.mem (h : IsSlug s) {c : Char} (hc : c ∈ s.toList) :
    isGroupChar c = true ∨ c = '-' := by
  obtain ⟨gs, hne, hgs, hs⟩ := h
  obtain ⟨g, rest, rfl⟩ := List.exists_cons_of_ne_nil hne
  rw [hs, intercalate_cons, List.mem_append, List.mem_flatMap] at hc
  rcases hc with hc | ⟨g', hg', hc⟩
  · exact Or.inl ((hgs g List.mem_cons_self).2 c hc)
  · rcases List.mem_cons.mp hc with rfl | hc
    · exact Or.inr rfl
    · exact Or.inl ((hgs g' (List.mem_cons_of_mem g hg')).2 c hc)

/-- Any other character is missing from a slug. -/
theorem IsSlug.not_mem (h : IsSlug s) {c : Char} (hgroup : isGroupChar c = false)
    (hhyphen : c ≠ '-') : c ∉ s.toList := by
  intro hc
  rcases h.mem hc with hmem | hmem
  · rw [hgroup] at hmem
    contradiction
  · exact hhyphen hmem

theorem slugChars_eq_nil_iff_filter :
    slugChars false false s.toList = [] ↔ s.toList.filter isSlugChar = [] := by
  rw [slugChars_eq_nil_iff, List.countP_eq_length_filter, List.length_eq_zero_iff]

theorem slug_of_none (h : s.toList.filter isSlugChar = []) : slug s = "resource" := by
  rw [slug, slugChars_eq_nil_iff_filter.mpr h, if_pos List.isEmpty_nil]

/-- The letters and digits of a slug are those of its text in lower case, if there are any. -/
theorem filter_slug (h : s.toList.filter isSlugChar ≠ []) : (slug s).toList.filter isSlugChar =
    (s.toList.filter isSlugChar).map asciiLowercase := by
  have hsome : ¬ (slugChars false false s.toList).isEmpty = true := by
    rwa [List.isEmpty_iff, slugChars_eq_nil_iff_filter]
  rw [slug, if_neg hsome, String.toList_ofList, filter_slugChars]

end Slugs

end ApiScreens.Text
