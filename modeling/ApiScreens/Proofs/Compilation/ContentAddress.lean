import ApiScreens.Compilation.Artifact
import ApiScreens.Proofs.Document.ResolvedTree
import ApiScreens.Proofs.Screen.Correspondence

/-!
# Documents with one content address

Documents with equal canonical texts compile to artifacts with one hash and one identifier. Their
screens are equal up to the order of options, if the documents agree on the types that their schemas
state first and on the paths and properties that canonical forms leave out; and they are equal if
options stand in the same order as well.
-/

namespace ApiScreens

open Canonical (Same SameSilent)
open Schema (Throughout)

section Compiling

variable {prefixes : List String} {token : Option String} {text : String} {a : Artifact}

theorem Plan.eq_of_checked {p q : Plan} (h : p.checked = .ok q) : q = p := by
  unfold checked at h
  split at h
  · contradiction
  · exact (Except.ok.inj h).symm

/-- What a derived compilation makes of a document, stage by stage. -/
theorem Planner.compile_derived_eq_ok :
    (Planner.derived : Planner Id).compile prefixes token text = .ok a ↔
      ∃ (r : ResolvedDocument) (b : ApiBuild) (specs : Keyed ScreenSpec),
        ResolvedDocument.ofText text = .ok r ∧ ApiBuild.ofDocument r.root prefixes = .ok b ∧
        (Plan.derived b.model).checked = .ok (Plan.derived b.model) ∧
        (Plan.derived b.model).normalize.lower b.model = .ok specs ∧
        a = ⟨(DocumentHash.ofRoot r.root token).id, specs, b.model,
          (DocumentHash.ofRoot r.root token).hash⟩ := by
  have hstages (document : PreparedDocument)
      (hdocument : PreparedDocument.ofText prefixes token text = .ok document) :
      (Planner.derived : Planner Id).compile prefixes token text = .ok a ↔
        ∃ plan, (Plan.derived document.model).checked = .ok plan ∧
          document.artifact plan = .ok a := by
    unfold Planner.compile
    rw [hdocument]
    simp only [Planner.derived, pure_bind]
    cases (Plan.derived document.model).checked with
    | error issue =>
        constructor
        · intro h
          contradiction
        · rintro ⟨_, h, _⟩
          contradiction
    | ok plan =>
        constructor
        · exact fun h => ⟨plan, rfl, h⟩
        · rintro ⟨_, ⟨rfl⟩, h⟩
          exact h
  constructor
  · intro h
    cases hdocument : PreparedDocument.ofText prefixes token text with
    | error failure =>
        unfold Planner.compile at h
        rw [hdocument] at h
        contradiction
    | ok document =>
        obtain ⟨plan, hchecked, hartifact⟩ := (hstages document hdocument).mp h
        obtain ⟨r, hr, hprepared⟩ := bind_eq_ok.mp hdocument
        obtain ⟨b, hb, hprepared⟩ := bind_eq_ok.mp hprepared
        obtain rfl := Except.ok.inj hprepared
        obtain rfl := Plan.eq_of_checked hchecked
        obtain ⟨specs, hspecs, ha⟩ := bind_eq_ok.mp hartifact
        exact ⟨r, b, specs, hr, mapError_eq_ok.mp hb, hchecked, mapError_eq_ok.mp hspecs,
          (Except.ok.inj ha).symm⟩
  · rintro ⟨r, b, specs, hr, hb, hchecked, hspecs, rfl⟩
    have hdocument : PreparedDocument.ofText prefixes token text =
        .ok ⟨DocumentHash.ofRoot r.root token, b.model⟩ :=
      bind_eq_ok.mpr ⟨r, hr, bind_eq_ok.mpr ⟨b, mapError_eq_ok.mpr hb, rfl⟩⟩
    exact (hstages _ hdocument).mpr
      ⟨_, hchecked, bind_eq_ok.mpr ⟨specs, mapError_eq_ok.mpr hspecs, rfl⟩⟩

end Compiling

/-- The compact text of an object that reads back is a document. -/
theorem ParsedDocument.ofText_compact {members : Json.Members}
    (htree : (Json.object members).IsTree)
    (hread : Json.readValue Json.maxDepth ((Json.object members).writeCompact []) =
      some (.object members, [])) : ofText (Json.object members).compact =
        .ok ⟨.object members, ApiVersion.detect (.object members), .json⟩ := by
  have htext : (Json.object members).compact.toList = (Json.object members).writeCompact [] :=
    String.toList_ofList
  have hopen : (Json.object members).writeCompact [] = '{' :: Json.writeMembers members ['}'] := by
    rw [Json.writeCompact]
  have hblank : Text.isBlankText (Json.object members).compact = false := by
    rw [Text.isBlankText, htext, hopen]
    rfl
  have hformat : Format.detect (Json.object members).compact = .json := by
    rw [Format.detect, htext, hopen]
    rfl
  have hskip : Json.skipSpace ((Json.object members).writeCompact []) =
      (Json.object members).writeCompact [] := by
    rw [hopen]
    rfl
  have hjson : Json.read? (Json.object members).compact = some (.object members) := by
    rw [Json.read?, Json.readWritten?, htext, hskip, hread]
    exact congrArg some htree.sorted_eq
  have hroot : readRoot (Json.object members).compact .json = .ok (.object members) := by
    unfold readRoot
    rw [hjson]
    rfl
  unfold ofText
  rw [hblank, if_neg Bool.false_ne_true, hformat]
  exact bind_eq_ok.mpr ⟨_, hroot, rfl⟩

/-- Two documents agree on what screens see of them and canonical forms forget, options apart: the
paths that canonical forms leave out, and at every depth of the schemas of one method of one path
the types that they state and the properties that canonical forms leave out. -/
structure ResolvedDocument.Agrees (r r' : ResolvedDocument) : Prop where
  paths : SameSilent (Subset.paths r.root) (Subset.paths r'.root)
  schemas : Declaration.AllSchemasRelate (Throughout Schema.Agrees) r.root r'.root

/-- The schemas of two documents list their options in the same order. -/
def ResolvedDocument.SameOptions (r r' : ResolvedDocument) : Prop :=
  Declaration.AllSchemasRelate (Throughout fun s t => Schema.options? s = Schema.options? t) r.root
    r'.root

theorem Plan.mapOptions_id (specs : Keyed ScreenSpec) : mapOptions id specs = specs := by
  have hfield : ScreenField.mapOptions id = id := by
    funext field
    simp [ScreenField.mapOptions]
  simp [mapOptions, ScreenSpec.mapOptions, hfield]

namespace ResolvedDocument

variable {prefixes : List String} {text text' : String} {r r' : ResolvedDocument} {a a' : Artifact}

/-- Screens are equal once options are changed by a function by which the schemas match. -/
theorem mapOptions_specs {f : List String → List String}
    (hr : ResolvedDocument.ofText text = .ok r) (hr' : ResolvedDocument.ofText text' = .ok r')
    (ha : (Planner.derived : Planner Id).compile prefixes none text = .ok a)
    (ha' : (Planner.derived : Planner Id).compile prefixes none text' = .ok a')
    (hsame : Same r.root r'.root)
    (hsilent : SameSilent (Subset.paths r.root) (Subset.paths r'.root))
    (hschemas : ∀ d ∈ Declaration.all r.root, ∀ e ∈ Declaration.all r'.root, d.Corresponds e →
      d.SchemasRelate (Throughout (Schema.Matches f)) e) :
    Plan.mapOptions f a.specs = Plan.mapOptions f a'.specs := by
  obtain ⟨s, b, specs, hs, hb, _, hspecs, rfl⟩ := Planner.compile_derived_eq_ok.mp ha
  obtain ⟨s', b', specs', hs', hb', _, hspecs', rfl⟩ := Planner.compile_derived_eq_ok.mp ha'
  obtain rfl := Except.ok.inj (hr.symm.trans hs)
  obtain rfl := Except.ok.inj (hr'.symm.trans hs')
  have hresources := ApiBuild.corresponds_of_ofDocument hsame hsilent hschemas hb hb'
  rw [← Plan.derived_eq hresources] at hspecs'
  exact Plan.mapOptions_lower hresources hspecs hspecs'

/-- Two documents with equal canonical texts that agree on what these forget compile to artifacts
with one hash, one identifier, and screens that are equal up to the order of options; the screens
are equal if the documents list options in the same order. -/
theorem specs_of_canonicalText (hr : ResolvedDocument.ofText text = .ok r)
    (hr' : ResolvedDocument.ofText text' = .ok r')
    (ha : (Planner.derived : Planner Id).compile prefixes none text = .ok a)
    (ha' : (Planner.derived : Planner Id).compile prefixes none text' = .ok a')
    (htext : Canonical.text r.root = Canonical.text r'.root) (hagrees : r.Agrees r') :
    a.hash = a'.hash ∧ a.id = a'.id ∧
      Plan.mapOptions sortTexts a.specs = Plan.mapOptions sortTexts a'.specs ∧
      (r.SameOptions r' → a.specs = a'.specs) := by
  have hsame : Same r.root r'.root := .of_text_eq (isTree_of_ofText hr) (isTree_of_ofText hr') htext
  have hhash : DocumentHash.ofRoot r.root none = DocumentHash.ofRoot r'.root none := by
    simp only [DocumentHash.ofRoot, Canonical.contentHash, htext]
  have hschemas (d) (hd : d ∈ Declaration.all r.root) (e) (he : e ∈ Declaration.all r'.root)
      (h : d.Corresponds e) :=
    h.schemasRelate.and (hagrees.schemas d hd e he h.path h.method)
  have haddress {text : String} {r : ResolvedDocument} {a : Artifact}
      (hr : ResolvedDocument.ofText text = .ok r)
      (ha : (Planner.derived : Planner Id).compile prefixes none text = .ok a) :
      DocumentHash.ofRoot r.root none = ⟨a.hash, a.id⟩ := by
    obtain ⟨s, _, _, hs, _, _, _, rfl⟩ := Planner.compile_derived_eq_ok.mp ha
    obtain rfl := Except.ok.inj (hr.symm.trans hs)
    rfl
  rw [haddress hr ha, haddress hr' ha', DocumentHash.mk.injEq] at hhash
  refine ⟨hhash.1, hhash.2, ?_, ?_⟩
  · refine mapOptions_specs hr hr' ha ha' hsame hagrees.paths fun d hd e he h => ?_
    exact (hschemas d hd e he h).imp fun s t ⟨hsame, hthroughout⟩ =>
      hthroughout.matches_sorted hsame
  · intro hoptions
    rw [← Plan.mapOptions_id a.specs, ← Plan.mapOptions_id a'.specs]
    refine mapOptions_specs hr hr' ha ha' hsame hagrees.paths fun d hd e he h => ?_
    exact ((hschemas d hd e he h).and (hoptions d hd e he h.path h.method)).imp
      fun s t ⟨⟨hsame, hthroughout⟩, horder⟩ => hthroughout.matches_id horder hsame

/-- A document with one path, which lists things with these properties. -/
def thingsRoot (properties : Json.Members) : Json :=
  let schema : Json := .object [("properties", .object properties)]
  let body : Json := .object [("content", .object [("application/json",
    .object [("schema", schema)])])]
  .object [("paths", .object [
    ("/items", .object [("get", .object [("responses", .object [("200", body)])])])])]

theorem canonicalText_thingsRoot {properties properties' : Json.Members}
    (h : Canonical.canonicalizeMembers properties = Canonical.canonicalizeMembers properties') :
    Canonical.text (thingsRoot properties) = Canonical.text (thingsRoot properties') := by
  simp only [Canonical.text, thingsRoot, Canonical.canonicalize, Canonical.canonicalizeMembers, h]

/-- A property that has a list of texts under a key. -/
def sized (key : String) (texts : List String) : Json.Members :=
  [("size", .object [(key, .ofStrings texts)])]

theorem canonicalizeMembers_sized (key : String) {texts texts' : List String}
    (h : texts.Perm texts') : Canonical.canonicalizeMembers (sized key texts) =
      Canonical.canonicalizeMembers (sized key texts') := by
  have hplain : ∀ v ∈ texts.map Json.string, Canonical.isPlain v = true := by
    simp [Canonical.isPlain]
  have hforms (texts : List String) :
      (texts.map Json.string).map Canonical.canonicalize = texts.map .string := by
    simp [Canonical.canonicalize]
  simp only [sized, Json.ofStrings, Canonical.canonicalize, Canonical.canonicalizeMembers,
    Canonical.canonicalizeItems_eq_map, hforms, Canonical.arrange_plain hplain (h.map _)]

/-- Documents whose property has other options agree. -/
theorem agrees_of_sized {options options' : List String}
    (hr : r.root = thingsRoot (sized "enum" options))
    (hr' : r'.root = thingsRoot (sized "enum" options')) : r.Agrees r' := by
  have hsize (options : List String) : ∀ m ∈ sized "enum" options, m.1 ∉ Canonical.silentKeys :=
    List.forall_mem_singleton.mpr (show "size" ∉ Canonical.silentKeys by decide)
  have hpath (properties : Json.Members) :
      ∀ m ∈ Subset.paths (thingsRoot properties), m.1 ∉ Canonical.silentKeys :=
    List.forall_mem_singleton.mpr (show "/items" ∉ Canonical.silentKeys by decide)
  have hproperty (v w : Json) (hv : v = .object [("enum", .ofStrings options)])
      (hw : w = .object [("enum", .ofStrings options')]) : Throughout Schema.Agrees v w := by
    subst hv hw
    refine .intro ⟨rfl, ?_⟩ nofun nofun
    exact Canonical.sameSilent_of_keys (List.forall_mem_nil _) (List.forall_mem_nil _)
  constructor
  case paths =>
    rw [hr, hr']
    exact Canonical.sameSilent_of_keys (hpath _) (hpath _)
  case schemas =>
    rw [hr, hr']
    intro d hd e he _ _
    obtain rfl := List.mem_singleton.mp hd
    obtain rfl := List.mem_singleton.mp he
    refine ⟨?_, nofun⟩
    intro s t hs ht
    obtain rfl := Option.some.inj hs
    obtain rfl := Option.some.inj ht
    refine .intro ⟨rfl, Canonical.sameSilent_of_keys (hsize options) (hsize options')⟩ ?_ nofun
    intro name v w hv hw
    exact hproperty v w (Prod.mk.inj (List.mem_singleton.mp (Keyed.mem_of_get? hv))).2
      (Prod.mk.inj (List.mem_singleton.mp (Keyed.mem_of_get? hw))).2

/-- A root without references reads back from its text and keeps to the subset, and these are the
screens that follow from it. -/
abbrev Shows (root : Json) (specs : Keyed ScreenSpec) : Prop :=
  root.IsTree ∧ Json.readValue Json.maxDepth (root.writeCompact []) = some (root, []) ∧
    Subset.violations root = [] ∧ Reference.resolve root = .ok root ∧
    (ApiBuild.ofDocument root []).map (fun b => ((Plan.derived b.model).checked.toOption.bind
      fun plan => (plan.normalize.lower b.model).toOption)) = .ok (some specs)

theorem compiles_of_shows {properties : Json.Members} {specs : Keyed ScreenSpec}
    (h : Shows (thingsRoot properties) specs) : ∃ (r : ResolvedDocument) (a : Artifact),
      ofText (thingsRoot properties).compact = .ok r ∧
      (Planner.derived : Planner Id).compile [] none (thingsRoot properties).compact = .ok a ∧
      r.root = thingsRoot properties ∧ a.specs = specs := by
  obtain ⟨htree, hread, hsubset, hresolve, hscreens⟩ := h
  obtain ⟨b, hb, hscreens⟩ := map_eq_ok.mp hscreens
  obtain ⟨plan, hplan, hspecs⟩ := Option.bind_eq_some_iff.mp hscreens
  have hchecked := toOption_eq_some.mp hplan
  obtain rfl := Plan.eq_of_checked hchecked
  have hr : ofText (thingsRoot properties).compact =
      .ok ⟨ApiVersion.detect (thingsRoot properties), thingsRoot properties⟩ := by
    refine bind_eq_ok.mpr ⟨_, mapError_eq_ok.mpr (ParsedDocument.ofText_compact htree hread), ?_⟩
    have hroot : checked (thingsRoot properties) = .ok (thingsRoot properties) := by
      rw [checked, hsubset]
    exact bind_eq_ok.mpr ⟨_, hroot, bind_eq_ok.mpr ⟨_, mapError_eq_ok.mpr hresolve, rfl⟩⟩
  have hlower := toOption_eq_some.mp hspecs
  refine ⟨_, _, hr, Planner.compile_derived_eq_ok.mpr ⟨_, b, specs, hr, hb, hchecked, hlower, rfl⟩,
    rfl, rfl⟩

/-- Screens that show things by one field. -/
def thingsScreens (field : ScreenField) : Keyed ScreenSpec :=
  [("items", ⟨"Items", [field], [field.name], [field.name], [field.name], none⟩)]

/-- A field for a size. -/
def sizeField (type : FieldType) (options : Option (List String)) : ScreenField :=
  ⟨"size", "Size", type, false, options, none⟩

theorem shows_small : Shows (thingsRoot (sized "enum" ["small", "large"]))
    (thingsScreens (sizeField .choice (some ["small", "large"]))) := by
  decide +kernel

theorem shows_large : Shows (thingsRoot (sized "enum" ["large", "small"]))
    (thingsScreens (sizeField .choice (some ["large", "small"]))) := by
  decide +kernel

theorem specs_of_canonicalText_reordered : ∃ (r r' : ResolvedDocument) (a a' : Artifact),
    ResolvedDocument.ofText (thingsRoot (sized "enum" ["small", "large"])).compact = .ok r ∧
    ResolvedDocument.ofText (thingsRoot (sized "enum" ["large", "small"])).compact = .ok r' ∧
    Canonical.text r.root = Canonical.text r'.root ∧ r.Agrees r' ∧ a.id = a'.id ∧
    Plan.mapOptions sortTexts a.specs = Plan.mapOptions sortTexts a'.specs ∧
    a.specs = thingsScreens (sizeField .choice (some ["small", "large"])) := by
  obtain ⟨r, a, hr, ha, hroot, hspecs⟩ := compiles_of_shows shows_small
  obtain ⟨r', a', hr', ha', hroot', _⟩ := compiles_of_shows shows_large
  have htext : Canonical.text r.root = Canonical.text r'.root := by
    rw [hroot, hroot']
    exact canonicalText_thingsRoot (canonicalizeMembers_sized "enum" (by decide))
  have hagrees := agrees_of_sized hroot hroot'
  obtain ⟨_, hid, hsorted, _⟩ := specs_of_canonicalText hr hr' ha ha' htext hagrees
  exact ⟨r, r', a, a', hr, hr', htext, hagrees, hid, hsorted, hspecs⟩

/-- Two texts of documents with equal canonical texts compile to screens that differ, seen through
a function. -/
def Collide (see : Keyed ScreenSpec → Keyed ScreenSpec) (text text' : String) : Prop :=
  ∃ (r r' : ResolvedDocument) (a a' : Artifact), ResolvedDocument.ofText text = .ok r ∧
    ResolvedDocument.ofText text' = .ok r' ∧
    (Planner.derived : Planner Id).compile [] none text = .ok a ∧
    (Planner.derived : Planner Id).compile [] none text' = .ok a' ∧
    Canonical.text r.root = Canonical.text r'.root ∧ see a.specs ≠ see a'.specs

theorem collide_of_shows {see : Keyed ScreenSpec → Keyed ScreenSpec}
    {properties properties' : Json.Members} {specs specs' : Keyed ScreenSpec}
    (h : Shows (thingsRoot properties) specs) (h' : Shows (thingsRoot properties') specs')
    (hforms : Canonical.canonicalizeMembers properties = Canonical.canonicalizeMembers properties')
    (hne : see specs ≠ see specs') :
    Collide see (thingsRoot properties).compact (thingsRoot properties').compact := by
  obtain ⟨r, a, hr, ha, hroot, hspecs⟩ := compiles_of_shows h
  obtain ⟨r', a', hr', ha', hroot', hspecs'⟩ := compiles_of_shows h'
  refine ⟨r, r', a, a', hr, hr', ha, ha', ?_, ?_⟩
  · rw [hroot, hroot']
    exact canonicalText_thingsRoot hforms
  · rw [hspecs, hspecs']
    exact hne

/-- One canonical text may stand for different screens: it forgets the order of options, which of
several types is stated first, and properties that are named like members without meaning. -/
theorem specs_collide :
    Collide id (thingsRoot (sized "enum" ["small", "large"])).compact
      (thingsRoot (sized "enum" ["large", "small"])).compact ∧
    Collide (Plan.mapOptions sortTexts) (thingsRoot (sized "type" ["string", "number"])).compact
      (thingsRoot (sized "type" ["number", "string"])).compact ∧
    Collide (Plan.mapOptions sortTexts) (thingsRoot [("example", .object [])]).compact
      (thingsRoot [("summary", .object [])]).compact := by
  have htext : Shows (thingsRoot (sized "type" ["string", "number"]))
      (thingsScreens (sizeField .string none)) := by
    decide +kernel
  have hnumber : Shows (thingsRoot (sized "type" ["number", "string"]))
      (thingsScreens (sizeField .number none)) := by
    decide +kernel
  have hexample : Shows (thingsRoot [("example", .object [])])
      (thingsScreens ⟨"example", "Example", .string, false, none, none⟩) := by
    decide +kernel
  have hsummary : Shows (thingsRoot [("summary", .object [])])
      (thingsScreens ⟨"summary", "Summary", .string, false, none, none⟩) := by
    decide +kernel
  refine ⟨?_, ?_, ?_⟩
  · exact collide_of_shows shows_small shows_large
      (canonicalizeMembers_sized "enum" (by decide)) (by decide)
  · exact collide_of_shows htext hnumber (canonicalizeMembers_sized "type" (by decide)) (by decide)
  · exact collide_of_shows hexample hsummary rfl (by decide)

end ResolvedDocument

end ApiScreens
