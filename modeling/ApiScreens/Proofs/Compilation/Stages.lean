import ApiScreens.Proofs.Api.Partition
import ApiScreens.Proofs.Compilation.ContentAddress
import ApiScreens.Proofs.Document.Faults
import ApiScreens.Proofs.Planner.Retries
import ApiScreens.Proofs.Screen.Lowering

/-!
# Stages of a compilation

A compilation that fails does so in one stage, with faults of the kinds that the stage reports;
only validation reports several. The planner is asked once all stages before the plan have passed,
so a failure before it leaves everything as it was. A compilation that succeeds answers the hash and
the identifier of its document, and the screens of resources of its model.
-/

namespace ApiScreens

/-- The kinds of faults that a stage reports. -/
def Stage.codes : Stage → List FaultCode
  | parse => [.parseError]
  | validate => [.unsupportedSchemaKeyword, .multipleSuccessResponses, .multipleTags,
      .missingRequestBody, .multiplePathParams]
  | resolve => [.externalRef, .circularRef]
  | canonicalize => []
  | apiModel => [.ambiguousResourceGrouping, .apiModelInvalid]
  | plan => [.planInvalid, .modelUnavailable]
  | lowering => [.screenInvalid]

/-- A fault that a stage reports. -/
def Diagnostic.Of (stage : Stage) (d : Diagnostic) : Prop :=
  d.stage = stage ∧ d.code ∈ stage.codes

/-- A failure of one stage, for several faults only if the stage is validation. -/
structure CompileFailure.Of (stage : Stage) (f : CompileFailure) : Prop where
  nonempty : f.errors ≠ []
  same : ∀ d ∈ f.errors, d.Of stage
  single : 1 < f.errors.length → stage = .validate

theorem Diagnostic.Of.failure {stage : Stage} {d : Diagnostic} (h : d.Of stage) :
    (CompileFailure.ofDiagnostic d).Of stage where
  nonempty := List.cons_ne_nil _ _
  same := List.forall_mem_singleton.mpr h
  single hlength := absurd hlength (Nat.lt_irrefl 1)

section Faults

theorem ParseError.of_parse (e : ParseError) : e.diagnostic.Of .parse :=
  ⟨rfl, List.mem_singleton.mpr rfl⟩

theorem Violation.of_validate (v : Violation) (place : Json.Pointer) :
    (v.diagnostic place).Of .validate := by
  refine ⟨rfl, ?_⟩
  cases v <;> simp [Violation.diagnostic, Violation.code, Stage.codes]

theorem ReferenceError.of_resolve (e : ReferenceError) (node : Json.Pointer) :
    (e.diagnostic node).Of .resolve := by
  refine ⟨rfl, ?_⟩
  cases e <;> simp [ReferenceError.diagnostic, ReferenceError.code, Stage.codes]

theorem DeclarationError.of_apiModel (e : DeclarationError) (place : Json.Pointer) :
    (e.diagnostic place).Of .apiModel :=
  ⟨rfl, List.mem_cons_of_mem _ List.mem_cons_self⟩

theorem ScreenError.of_lowering (e : ScreenError) : e.diagnostic.Of .lowering := by
  cases e <;> exact ⟨rfl, List.mem_singleton.mpr rfl⟩

theorem Diagnostic.planInvalid_of_plan (message : String) :
    (Diagnostic.planInvalid message).Of .plan :=
  ⟨rfl, List.mem_cons_self⟩

theorem Diagnostic.modelUnavailable_of_plan (message : String) :
    (Diagnostic.modelUnavailable message).Of .plan :=
  ⟨rfl, List.mem_cons_of_mem _ List.mem_cons_self⟩

theorem Declaration.of_apiModel {declaration : Declaration} {d : Diagnostic}
    (h : declaration.operation = .error d) : d.Of .apiModel := by
  unfold Declaration.operation at h
  dsimp only at h
  split at h
  · obtain rfl := Except.error.inj h
    exact DeclarationError.of_apiModel _ _
  · split at h
    · obtain rfl := Except.error.inj h
      exact DeclarationError.of_apiModel _ _
    · split at h
      · obtain rfl := Except.error.inj h
        exact DeclarationError.of_apiModel _ _
      · contradiction

theorem ApiBuild.of_apiModel {root : Json} {prefixes : List String} {d : Diagnostic}
    (h : ApiBuild.ofDocument root prefixes = .error d) : d.Of .apiModel := by
  rcases ApiBuild.ofDocument_eq_error.mp h with ⟨_, rfl⟩ | ⟨_, _, _, _, _, _, hoperation⟩
  · exact ⟨rfl, List.mem_cons_self⟩
  · exact Declaration.of_apiModel hoperation

end Faults

section Documents

variable {root : Json} {text : String} {token : Option String} {prefixes : List String}
  {failure : CompileFailure}

theorem ResolvedDocument.checked_eq_error : ResolvedDocument.checked root = .error failure ↔
    Subset.violations root ≠ [] ∧ failure = ⟨Subset.violations root⟩ := by
  unfold ResolvedDocument.checked
  cases Subset.violations root <;> simp [eq_comm]

theorem ResolvedDocument.of_validate (h : ResolvedDocument.checked root = .error failure) :
    failure.Of .validate := by
  obtain ⟨hne, rfl⟩ := ResolvedDocument.checked_eq_error.mp h
  constructor
  case nonempty => exact hne
  case same =>
    intro d hd
    obtain ⟨violation, place, _, rfl, _⟩ := Subset.placed_of_violations hd
    exact violation.of_validate place
  case single => exact fun _ => rfl

/-- A text that comes to no document fails in one of the first stages. -/
theorem ResolvedDocument.exists_stage (h : ResolvedDocument.ofText text = .error failure) :
    ∃ stage, (stage = .parse ∨ stage = .validate ∨ stage = .resolve) ∧ failure.Of stage := by
  rcases bind_eq_error.mp h with hparse | ⟨parsed, _, h⟩
  · obtain ⟨e, _, rfl⟩ := mapError_eq_error.mp hparse
    exact ⟨.parse, Or.inl rfl, e.of_parse.failure⟩
  · rcases bind_eq_error.mp h with hvalidate | ⟨root, _, h⟩
    · exact ⟨.validate, Or.inr (Or.inl rfl), ResolvedDocument.of_validate hvalidate⟩
    · rcases bind_eq_error.mp h with hresolve | ⟨_, _, hdone⟩
      · obtain ⟨d, hd, rfl⟩ := mapError_eq_error.mp hresolve
        obtain ⟨e, node, _, _, _, _, rfl⟩ := Reference.resolve_eq_error hd
        exact ⟨.resolve, Or.inr (Or.inr rfl), (e.of_resolve node.1).failure⟩
      · contradiction

/-- A text that is not ready to be planned fails before the plan. -/
theorem PreparedDocument.exists_stage
    (h : PreparedDocument.ofText prefixes token text = .error failure) :
    ∃ stage, stage ≠ .plan ∧ stage ≠ .lowering ∧ failure.Of stage := by
  rcases bind_eq_error.mp h with hresolved | ⟨resolved, _, h⟩
  · obtain ⟨stage, hstage, hof⟩ := ResolvedDocument.exists_stage hresolved
    refine ⟨stage, ?_, ?_, hof⟩
    · rcases hstage with rfl | rfl | rfl <;> decide
    · rcases hstage with rfl | rfl | rfl <;> decide
  · rcases bind_eq_error.mp h with hbuild | ⟨_, _, hdone⟩
    · obtain ⟨d, hd, rfl⟩ := mapError_eq_error.mp hbuild
      exact ⟨.apiModel, by decide, by decide, (ApiBuild.of_apiModel hd).failure⟩
    · contradiction

theorem PreparedDocument.hash_of_ofText {document : PreparedDocument}
    (h : PreparedDocument.ofText prefixes token text = .ok document) :
    DocumentHash.ofText text token = .ok document.hash := by
  obtain ⟨resolved, hresolved, h⟩ := bind_eq_ok.mp h
  obtain ⟨build, _, h⟩ := bind_eq_ok.mp h
  obtain rfl := Except.ok.inj h
  exact map_eq_ok.mpr ⟨resolved, hresolved, rfl⟩

end Documents

/-- A planner on a script: one that answers a payload, one that lists properties, or one that asks
the language model of the script. -/
inductive ScriptedPlanner where
  | fixed (payload : Json)
  | derived
  | model (name : Option String) (maxAttempts maxTokens : UInt32)

namespace ScriptedPlanner

/-- What the planner does. -/
def planner : ScriptedPlanner → Planner (StateM Script)
  | fixed payload => Planner.fixed payload
  | derived => Planner.derived
  | model name maxAttempts maxTokens => (Script.planner name maxAttempts maxTokens).planner

/-- A planner fails with a fault of the plan. -/
theorem of_plan {choice : ScriptedPlanner} {model : ApiModel} {s s' : Script} {d : Diagnostic}
    (h : (choice.planner.plan model).run s = (.error d, s')) : d.Of .plan := by
  have hresult := congrArg Prod.fst h
  cases choice with
  | fixed payload =>
      obtain ⟨issue, _, rfl⟩ := mapError_eq_error.mp hresult
      exact Diagnostic.planInvalid_of_plan _
  | derived =>
      obtain ⟨issue, _, rfl⟩ := mapError_eq_error.mp hresult
      exact Diagnostic.planInvalid_of_plan _
  | model name maxAttempts maxTokens =>
      cases name with
      | none =>
          obtain rfl := Except.error.inj hresult
          exact Diagnostic.modelUnavailable_of_plan _
      | some name =>
          have hpos : 0 < (AttemptBudget.ofLimit maxAttempts).remaining := by
            rw [AttemptBudget.remaining_ofLimit]
            omega
          obtain ⟨left, hleft⟩ := Nat.exists_eq_add_of_lt hpos
          rw [Nat.zero_add] at hleft
          obtain ⟨result, calls, last, hrun, houtcome⟩ := ModelPlanner.attempts_run name maxAttempts
            maxTokens (ChatRequest.forModel model maxTokens) none s hleft
          obtain rfl : result = .error d := (congrArg Prod.fst hrun).symm.trans hresult
          cases houtcome with
          | failed => exact Diagnostic.modelUnavailable_of_plan _
          | exhausted => exact Diagnostic.planInvalid_of_plan _

end ScriptedPlanner

section Compiling

variable {prefixes : List String} {token : Option String} {text : String}

/-- A document that is not ready to be planned ends the compilation before the planner is asked. -/
theorem Planner.compile_of_error {m : Type → Type} [Monad m] (planner : Planner m)
    {failure : CompileFailure} (h : PreparedDocument.ofText prefixes token text = .error failure) :
    planner.compile prefixes token text = pure (.error failure) := by
  rw [Planner.compile, h]

theorem Planner.compile_of_error_run (planner : Planner (StateM Script)) {failure : CompileFailure}
    (h : PreparedDocument.ofText prefixes token text = .error failure) (s : Script) :
    (planner.compile prefixes token text).run s = (.error failure, s) := by
  rw [Planner.compile_of_error planner h]
  rfl

/-- What a run makes of a document that is ready to be planned: the fault of the plan, or what
follows from the plan. -/
theorem Planner.compile_run {document : PreparedDocument} (planner : Planner (StateM Script))
    (h : PreparedDocument.ofText prefixes token text = .ok document) (s : Script) :
    (planner.compile prefixes token text).run s =
      match (planner.plan document.model).run s with
      | (.error fault, s') => (.error (.ofDiagnostic fault), s')
      | (.ok plan, s') => (document.artifact plan, s') := by
  rw [Planner.compile, h, StateT.run_bind]
  generalize (planner.plan document.model).run s = outcome
  obtain ⟨result, s'⟩ := outcome
  cases result <;> rfl

/-- What follows from a plan fails in the last stage. -/
theorem PreparedDocument.of_lowering {document : PreparedDocument} {plan : Plan}
    {failure : CompileFailure} (h : document.artifact plan = .error failure) :
    failure.Of .lowering := by
  rcases bind_eq_error.mp h with hlower | ⟨_, _, hdone⟩
  · obtain ⟨e, _, rfl⟩ := mapError_eq_error.mp hlower
    exact e.of_lowering.failure
  · contradiction

/-- An artifact of a document: it has the hash and the identifier of the document, and its screens
stand by their keys in ascending order, each under the key of a resource of its model and by the
name of that resource. -/
structure Artifact.Describes (a : Artifact) (document : PreparedDocument) : Prop where
  hash : document.hash = ⟨a.hash, a.id⟩
  model : a.model = document.model
  slugs : a.slugs = a.specs.map (·.1)
  ascending : a.slugs.Pairwise (· < ·)
  names : a.names = a.specs.map (·.2.entity)
  resources : ∀ e ∈ a.specs, ∃ r ∈ a.model.resources, r.key = e.1 ∧ r.name = e.2.entity

theorem PreparedDocument.describes_of_artifact {document : PreparedDocument} {plan : Plan}
    {a : Artifact} (h : document.artifact plan = .ok a) : a.Describes document := by
  obtain ⟨specs, hlower, h⟩ := bind_eq_ok.mp h
  obtain rfl := Except.ok.inj h
  obtain ⟨hascending, hlowers⟩ := Plan.lowers_of_lower (mapError_eq_ok.mp hlower)
  constructor
  case hash => rfl
  case model => rfl
  case slugs => rfl
  case ascending => exact List.pairwise_map.mpr hascending
  case names => rfl
  case resources =>
    intro e he
    obtain ⟨_, _, r, hr, _, hkey, hspec, hsound⟩ := hlowers e he
    exact ⟨r, hr, hkey.symm, hsound.entity.symm⟩

end Compiling

/-- A compilation with a planner on a script fails in one stage, for several faults only in
validation; before the plan, the planner has not been asked, so the script is left as it was. One
that succeeds describes the document, whose hash and identifier the text has without a planner. -/
theorem compile_outcome (choice : ScriptedPlanner) (prefixes : List String) (token : Option String)
    (text : String) (s : Script) :
    (∀ failure s', (choice.planner.compile prefixes token text).run s = (.error failure, s') →
      ∃ stage, failure.Of stage ∧
        (stage = .plan ∨ stage = .lowering →
          ∃ document, PreparedDocument.ofText prefixes token text = .ok document) ∧
        (stage ≠ .plan → stage ≠ .lowering →
          PreparedDocument.ofText prefixes token text = .error failure ∧ s' = s)) ∧
    ∀ a s', (choice.planner.compile prefixes token text).run s = (.ok a, s') →
      DocumentHash.ofText text token = .ok ⟨a.hash, a.id⟩ ∧
        ∃ document, PreparedDocument.ofText prefixes token text = .ok document ∧
          a.Describes document := by
  cases hprepared : PreparedDocument.ofText prefixes token text with
  | error fault =>
      rw [Planner.compile_of_error_run choice.planner hprepared]
      constructor
      · rintro failure s' ⟨⟩
        obtain ⟨stage, hplan, hlowering, hof⟩ := PreparedDocument.exists_stage hprepared
        exact ⟨stage, hof, fun h => absurd h (not_or.mpr ⟨hplan, hlowering⟩), fun _ _ => ⟨rfl, rfl⟩⟩
      · rintro a s' ⟨⟩
  | ok document =>
      rw [Planner.compile_run choice.planner hprepared]
      cases hplan : (choice.planner.plan document.model).run s with
      | mk outcome s₁ =>
          cases outcome with
          | error fault =>
              constructor
              · rintro failure s' ⟨⟩
                exact ⟨.plan, (ScriptedPlanner.of_plan hplan).failure, fun _ => ⟨document, rfl⟩,
                  fun h => absurd rfl h⟩
              · rintro a s' ⟨⟩
          | ok plan =>
              constructor
              · intro failure s' h
                have hlower : document.artifact plan = .error failure := congrArg Prod.fst h
                exact ⟨.lowering, PreparedDocument.of_lowering hlower, fun _ => ⟨document, rfl⟩,
                  fun _ h => absurd rfl h⟩
              · intro a s' h
                have hdescribes := PreparedDocument.describes_of_artifact
                  (congrArg Prod.fst h : document.artifact plan = .ok a)
                rw [← hdescribes.hash]
                exact ⟨PreparedDocument.hash_of_ofText hprepared, document, rfl, hdescribes⟩

section Samples

theorem Planner.compile_derived_run (prefixes : List String) (token : Option String)
    (text : String) (s : Script) :
    ((Planner.derived : Planner (StateM Script)).compile prefixes token text).run s =
      ((Planner.derived : Planner Id).compile prefixes token text, s) := by
  cases hprepared : PreparedDocument.ofText prefixes token text with
  | error fault =>
      rw [Planner.compile_of_error_run _ hprepared, Planner.compile_of_error _ hprepared]
      rfl
  | ok document =>
      have hrun : ((Planner.derived : Planner (StateM Script)).plan document.model).run s =
          ((Plan.derived document.model).checked.mapError PlanIssue.diagnostic, s) := rfl
      have hplan : (Planner.derived : Planner Id).plan document.model =
          pure ((Plan.derived document.model).checked.mapError PlanIssue.diagnostic) := rfl
      rw [Planner.compile_run _ hprepared, hrun, Planner.compile, hprepared]
      dsimp only
      rw [hplan, pure_bind]
      cases (Plan.derived document.model).checked <;> rfl

/-- A document with a path of two parameters, under which something is posted without a body. -/
def crowdedRoot : Json :=
  .object [("paths", .object [("/{a}/{b}", .object [("post", .object [])])])]

/-- A script without replies. -/
def silentScript : Script := Script.start [] ⟨0⟩ 1

theorem crowdedRoot_prepared : ∃ failure,
    PreparedDocument.ofText [] none crowdedRoot.compact = .error failure ∧
      failure.errors.map (·.code) = [.multiplePathParams, .missingRequestBody] := by
  have htree : crowdedRoot.IsTree := by decide +kernel
  have hread : Json.readValue Json.maxDepth (crowdedRoot.writeCompact []) =
      some (crowdedRoot, []) := by
    decide +kernel
  have hcodes : (Subset.violations crowdedRoot).map (·.code) =
      [.multiplePathParams, .missingRequestBody] := by
    decide +kernel
  have hne : Subset.violations crowdedRoot ≠ [] := by
    intro hnil
    rw [hnil] at hcodes
    exact absurd hcodes (List.cons_ne_nil _ _).symm
  have hchecked := ResolvedDocument.checked_eq_error.mpr ⟨hne, rfl⟩
  have hparsed := ParsedDocument.ofText_compact htree hread
  have hresolved : ResolvedDocument.ofText crowdedRoot.compact =
      .error ⟨Subset.violations crowdedRoot⟩ :=
    bind_eq_error.mpr (Or.inr ⟨_, mapError_eq_ok.mpr hparsed, bind_eq_error.mpr (Or.inl hchecked)⟩)
  exact ⟨_, bind_eq_error.mpr (Or.inl hresolved), hcodes⟩

/-- The text of a document that lists things by one field. -/
def thingsText : String :=
  (ResolvedDocument.thingsRoot (ResolvedDocument.sized "enum" ["small", "large"])).compact

theorem compile_outcome_samples :
    (∃ failure s', ((ScriptedPlanner.model (some "m") 3 64).planner.compile [] none
        crowdedRoot.compact).run silentScript = (.error failure, s') ∧
      failure.errors.map (·.code) = [.multiplePathParams, .missingRequestBody] ∧
      failure.Of .validate ∧ s' = silentScript) ∧
    ∃ a s', (ScriptedPlanner.derived.planner.compile [] none thingsText).run silentScript =
        (.ok a, s') ∧
      a.slugs = ["items"] ∧ a.names = ["Items"] ∧
      DocumentHash.ofText thingsText none = .ok ⟨a.hash, a.id⟩ := by
  constructor
  · obtain ⟨failure, hprepared, hcodes⟩ := crowdedRoot_prepared
    have hrun := Planner.compile_of_error_run (ScriptedPlanner.model (some "m") 3 64).planner
      hprepared silentScript
    obtain ⟨stage, hof, _, _⟩ := (compile_outcome _ _ _ _ _).1 failure _ hrun
    have hlength : failure.errors.length = 2 := by
      rw [← List.length_map (·.code), hcodes]
      rfl
    obtain rfl := hof.single (hlength ▸ Nat.one_lt_two)
    exact ⟨failure, _, hrun, hcodes, hof, rfl⟩
  · obtain ⟨_, a, _, ha, _, hspecs⟩ :=
      ResolvedDocument.compiles_of_shows ResolvedDocument.shows_small
    have hrun : (ScriptedPlanner.derived.planner.compile [] none thingsText).run silentScript =
        (.ok a, silentScript) := by
      rw [← ha]
      exact Planner.compile_derived_run _ _ _ _
    have hslugs : a.slugs = ["items"] := by
      rw [Artifact.slugs, hspecs]
      rfl
    have hnames : a.names = ["Items"] := by
      rw [Artifact.names, hspecs]
      rfl
    obtain ⟨hhash, _⟩ := (compile_outcome _ _ _ _ _).2 a _ hrun
    exact ⟨a, _, hrun, hslugs, hnames, hhash⟩

end Samples

end ApiScreens
