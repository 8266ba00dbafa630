import ApiScreens.Proofs.CommandLine.Places
import ApiScreens.Proofs.CommandLine.Steps
import ApiScreens.Proofs.Screen.Lowering
import ApiScreens.Proofs.Text.SlugGroups

/-!
# Output files of compilations

The files of an artifact lie in one directory, each under its own name. The screens of a resource
are written last under theirs, so they can be read afterwards; the artifact itself can be read
exactly if no resource has the slug `result`, which takes the name of its file.
-/

namespace ApiScreens

open Host (Step joinPath)
open Host.Step

namespace Workspace

variable {now : StateM Workspace Timestamp}
  {exchange : HttpRequest → StateM Workspace (Except ChatError HttpResponse)}

/-- The host of workspaces with another clock and another network. -/
def hostWith (now : StateM Workspace Timestamp)
    (exchange : HttpRequest → StateM Workspace (Except ChatError HttpResponse)) :
    Host (StateM Workspace) :=
  { host with now, exchange }

theorem hostWith_host : hostWith host.now host.exchange = host := rfl

variable {w w' : Workspace}

theorem keep_eq_true {change : Workspace → Option Workspace} :
    (keep change).run w = (true, w') ↔ change w = some w' := by
  rw [keep, StateT.run_bind, StateT.run_get, pure_bind]
  cases change w with
  | none =>
      constructor
      · intro h
        obtain ⟨hdone, _⟩ := Prod.mk.inj h
        contradiction
      · intro h
        contradiction
  | some made =>
      constructor
      · intro h
        exact congrArg some (Prod.mk.inj h).2
      · rintro ⟨rfl⟩
        rfl

/-- What writing files below a place does: their contents can be read, and all else stays. -/
structure Wrote (p : Place) (files : List (String × Json)) (w w' : Workspace) : Prop where
  grows : w.Grows w'
  written : ∀ f ∈ files, w'.file? (p ++ [f.1]) = some f.2.pretty
  kept : ∀ q, (∀ f ∈ files, q ≠ p ++ [f.1]) → w'.file? q = w.file? q

variable {p : Place} {directory : String} {file : String × Json} {files : List (String × Json)}

theorem wrote_writeJson {path : String} (hopen : w.Opens directory p) (hname : IsFileName file.1)
    (h : Yields ((hostWith now exchange).writeJson directory file) w path w') :
    Wrote p [file] w w' := by
  obtain ⟨done, between, hwrite, h⟩ := yields_bind.mp h
  cases done with
  | false => exact absurd h not_yields_throw
  | true =>
      obtain ⟨_, rfl⟩ := yields_pure.mp h
      have hwrite := keep_eq_true.mp (yields_lift.mp hwrite)
      obtain ⟨hgrows, hwritten, hkept⟩ :=
        write?_eq_some hwrite (hopen w (Grows.refl w) file.1 hname)
      exact ⟨hgrows, by simpa using hwritten, by simpa using hkept⟩

/-- Texts that are shown change no file. -/
theorem Wrote.congr (h : Wrote p files w w') {shown : Workspace} (hfiles : shown.files = w'.files)
    (hdirectories : shown.directories = w'.directories) : Wrote p files w shown where
  grows := h.grows.trans (grows_of_subset (by rw [hdirectories]; exact List.Subset.refl _)
    (by rw [hfiles]; exact List.Subset.refl _))
  written := fun f hf => (congrArg (List.lookup _) hfiles).trans (h.written f hf)
  kept := fun q hq => (congrArg (List.lookup q) hfiles).trans (h.kept q hq)

theorem Wrote.note {shown : Workspace} {text : String} {u : Unit} (h : Wrote p files w w')
    (hnote : Yields (liftM ((hostWith now exchange).note text)) w' u shown) :
    Wrote p files w shown := by
  obtain ⟨_, rfl⟩ := Prod.mk.inj (yields_lift.mp hnote)
  exact h.congr rfl rfl

theorem Wrote.print {shown : Workspace} {text : String} {u : Unit} (h : Wrote p files w w')
    (hprint : Yields (liftM ((hostWith now exchange).print text)) w' u shown) :
    Wrote p files w shown := by
  obtain ⟨_, rfl⟩ := Prod.mk.inj (yields_lift.mp hprint)
  exact h.congr rfl rfl

theorem Wrote.append {first rest : List (String × Json)} {between : Workspace}
    (hnames : ∀ f ∈ first, ∀ g ∈ rest, f.1 ≠ g.1) (hfirst : Wrote p first w between)
    (hrest : Wrote p rest between w') : Wrote p (first ++ rest) w w' where
  grows := hfirst.grows.trans hrest.grows
  written := by
    intro f hf
    rcases List.mem_append.mp hf with hf | hf
    · rw [hrest.kept _ fun g hg => ?_, hfirst.written f hf]
      simpa using hnames f hf g hg
    · exact hrest.written f hf
  kept := by
    intro q hq
    rw [hrest.kept q fun f hf => hq f (List.mem_append_right _ hf),
      hfirst.kept q fun f hf => hq f (List.mem_append_left _ hf)]

/-- Files with different names are written one after the other. -/
theorem wrote_forM (hopen : w.Opens directory p) (hfiles : ∀ f ∈ files, IsFileName f.1)
    (hnodup : (files.map (·.1)).Nodup)
    (h : Yields (files.forM fun file => do
      let path ← (hostWith now exchange).writeJson directory file
      (hostWith now exchange).note ("✅ Generated: " ++ Text.quoted path ++ "\n")) w () w') :
    Wrote p files w w' := by
  induction files generalizing w with
  | nil =>
      obtain ⟨_, rfl⟩ := yields_pure.mp h
      exact ⟨Grows.refl w, List.forall_mem_nil _, fun _ _ => rfl⟩
  | cons file rest ih =>
      obtain ⟨hfile, hrest⟩ := List.forall_mem_cons.mp hfiles
      obtain ⟨hnew, hnodup⟩ := List.nodup_cons.mp hnodup
      obtain ⟨_, w₂, hone, hmore⟩ := yields_bind.mp h
      obtain ⟨path, w₁, hwrite, hnote⟩ := yields_bind.mp hone
      have hwrote := (wrote_writeJson hopen hfile hwrite).note hnote
      refine hwrote.append ?_ (ih (hopen.grows hwrote.grows) hrest hnodup hmore)
      intro f hf g hg heq
      obtain rfl := List.mem_singleton.mp hf
      exact hnew (List.mem_map.mpr ⟨g, hg, heq.symm⟩)

end Workspace

/-- Lowering answers screens under slugs. -/
theorem Plan.isSlug_of_lower {model : ApiModel} {plan : Plan} {specs : Keyed ScreenSpec}
    (h : plan.lower model = .ok specs) : ∀ e ∈ specs, Text.IsSlug e.1 := by
  intro e he
  obtain ⟨p, _, r, _, hr, hkey, _⟩ := (lowers_of_lower h).2 e he
  rw [hkey, key_of_resourceOf? hr]
  exact Text.isSlug_slug p.name

namespace Artifact

/-- Whether screens are under different keys that are parts of file names. -/
def Separate (A : Artifact) : Prop := A.slugs.Nodup ∧ ∀ key ∈ A.slugs, '/' ∉ key.toList

variable {A : Artifact} {σ : Type}

theorem isFileName_append_json {key : String} (h : '/' ∉ key.toList) :
    IsFileName (key ++ ".json") := by
  have hchars : (key ++ ".json").toList = key.toList ++ ".json".toList := String.toList_append
  have hletter : 'j' ∈ (key ++ ".json").toList := by
    rw [hchars]
    exact List.mem_append_right _ (by decide)
  have hne (name : String) (hname : 'j' ∉ name.toList) : key ++ ".json" ≠ name := by
    intro heq
    exact hname (heq ▸ hletter)
  refine ⟨hne "" (by decide), hne "." (by decide), hne ".." (by decide), ?_⟩
  rw [hchars, List.mem_append, not_or]
  exact ⟨h, by decide⟩

theorem isFileName_result : IsFileName "result.json" :=
  @isFileName_append_json "result" (by decide)

theorem append_json_injective : Function.Injective fun key : String => key ++ ".json" := by
  intro a b h
  have hchars := congrArg String.toList h
  simp only [String.toList_append] at hchars
  exact String.toList_inj.mp (List.append_cancel_right hchars)

theorem map_fst_screenFiles (A : Artifact) :
    A.screenFiles.map (·.1) = A.slugs.map fun key => key ++ ".json" := by
  simp [screenFiles, slugs]

theorem result_mem_iff (A : Artifact) :
    "result.json" ∈ A.screenFiles.map (·.1) ↔ "result" ∈ A.slugs := by
  rw [map_fst_screenFiles]
  exact List.mem_map_of_injective append_json_injective (a := "result")

theorem Separate.nodup (h : A.Separate) : (A.screenFiles.map (·.1)).Nodup := by
  rw [map_fst_screenFiles]
  exact h.1.map append_json_injective

theorem Separate.isFileName (h : A.Separate) {f : String × Json} (hf : f ∈ A.screenFiles) :
    IsFileName f.1 := by
  obtain ⟨e, he, rfl⟩ := List.mem_map.mp hf
  exact isFileName_append_json (h.2 e.1 (List.mem_map_of_mem he))

theorem pretty_object (key : String) (value : Json) (members : Json.Members) :
    ∃ rest, (Json.object ((key, value) :: members)).pretty.toList =
      '{' :: (Json.newLine 1 ++ Json.stringChars key ++ rest) := by
  rw [Json.pretty, String.toList_ofList]
  cases members <;> exact ⟨_, rfl⟩

/-- The text of an artifact begins with another name than that of screens. -/
theorem pretty_toJson_ne (A : Artifact) (spec : ScreenSpec) :
    A.toJson.pretty ≠ spec.toJson.pretty := by
  intro h
  obtain ⟨rest, hA⟩ := pretty_object "id" (.string A.id) _
  obtain ⟨rest', hspec⟩ := pretty_object "entity" (.string spec.entity) _
  have hsame := hA.symm.trans ((congrArg String.toList h).trans hspec)
  have hletter : some 'i' = some 'e' := congrArg (fun cs : List Char => cs[5]?) hsame
  exact absurd hletter (by decide)

/-- The screens of an artifact stand under slugs. -/
theorem isSlug_slugs {d : PreparedDocument} {plan : Plan} (h : d.artifact plan = .ok A) :
    ∀ key ∈ A.slugs, Text.IsSlug key := by
  obtain ⟨specs, hspecs, hA⟩ := bind_eq_ok.mp h
  obtain rfl := Except.ok.inj hA
  intro key hkey
  obtain ⟨e, he, rfl⟩ := List.mem_map.mp hkey
  exact Plan.isSlug_of_lower (mapError_eq_ok.mp hspecs) e he

theorem separate_of_artifact {d : PreparedDocument} {plan : Plan} (h : d.artifact plan = .ok A) :
    A.Separate := by
  have hslugs := isSlug_slugs h
  obtain ⟨specs, hspecs, hA⟩ := bind_eq_ok.mp h
  obtain rfl := Except.ok.inj hA
  obtain ⟨hascending, _⟩ := Plan.lowers_of_lower (mapError_eq_ok.mp hspecs)
  refine ⟨List.pairwise_map.mpr (hascending.imp fun hlt => String.ne_of_lt hlt), ?_⟩
  intro key hkey
  exact (hslugs key hkey).not_mem (by decide) (by decide)

/-- What a compilation makes follows from some plan. -/
theorem artifact_of_compile {planner : Planner (Host.Metered (StateM σ))} {prefixes : List String}
    {token : Option String} {text : String} {sink sink' : MetricsSink} {s s' : σ}
    (h : ((planner.compile prefixes token text).run sink).run s = ((.ok A, sink'), s')) :
    ∃ d plan, PreparedDocument.ofText prefixes token text = .ok d ∧ d.artifact plan = .ok A := by
  unfold Planner.compile at h
  split at h
  · obtain ⟨hanswer, _⟩ := Prod.mk.inj (Prod.mk.inj h).1
    contradiction
  · rename_i d hd
    rw [StateT.run_bind, StateT.run_bind] at h
    generalize ((planner.plan d.model).run sink).run s = outcome at h
    obtain ⟨⟨answer, between⟩, s₁⟩ := outcome
    cases answer with
    | error fault =>
        obtain ⟨hanswer, _⟩ := Prod.mk.inj (Prod.mk.inj h).1
        contradiction
    | ok plan => exact ⟨d, plan, hd, (Prod.mk.inj (Prod.mk.inj h).1).1⟩

/-- An artifact that a compilation answers follows from a document and some plan. -/
theorem artifact_of_compilation {host : Host (StateM σ)} {settings : Settings} {s s' : σ}
    (h : Yields (host.compilation settings) s (.ok A) s') : ∃ text d plan,
      PreparedDocument.ofText settings.pathPrefixes settings.sessionToken text = .ok d ∧
        d.artifact plan = .ok A := by
  unfold Host.compilation at h
  split at h
  · exact absurd h not_yields_throw
  · obtain ⟨_, _, _, h⟩ := yields_bind.mp h
    obtain ⟨text, _, _, h⟩ := yields_bind.mp h
    obtain ⟨sink, _, _, h⟩ := yields_bind.mp h
    obtain ⟨planner, before, _, h⟩ := yields_bind.mp h
    obtain ⟨_, before, _, h⟩ := yields_bind.mp h
    obtain ⟨⟨result, sink'⟩, after, hcompile, h⟩ := yields_bind.mp h
    obtain ⟨_, _, _, h⟩ := yields_bind.mp h
    obtain ⟨rfl, _⟩ := yields_pure.mp h
    exact ⟨text, artifact_of_compile (yields_lift.mp hcompile)⟩

/-- A compilation answers artifacts whose screens have different file names. -/
theorem separate_of_compilation {host : Host (StateM σ)} {settings : Settings} {s s' : σ}
    (h : Yields (host.compilation settings) s (.ok A) s') : A.Separate := by
  obtain ⟨_, _, _, _, hA⟩ := artifact_of_compilation h
  exact separate_of_artifact hA

end Artifact

namespace Workspace

/-- The directory and the files that an artifact leaves. -/
theorem wrote_artifact {output : String} {A : Artifact} {code : UInt32} (hA : A.Separate)
    (h : Yields ((hostWith now exchange).writeArtifact output A) w code w') :
    ∃ p made between, made.Opens (joinPath output A.id) p ∧
      Wrote p [("result.json", A.toJson)] made between ∧ Wrote p A.screenFiles between w' := by
  unfold Host.writeArtifact at h
  dsimp only at h
  obtain ⟨done, made, hmake, h⟩ := yields_bind.mp h
  cases done with
  | false =>
      obtain ⟨_, _, hthrow, _⟩ := yields_bind.mp h
      exact absurd hthrow not_yields_throw
  | true =>
      obtain ⟨_, between, hresult, h⟩ := yields_bind.mp h
      obtain ⟨_, last, hscreens, h⟩ := yields_bind.mp h
      obtain ⟨_, w₁, hnote, h⟩ := yields_bind.mp h
      obtain ⟨_, w₂, hprint, h⟩ := yields_bind.mp h
      obtain ⟨_, rfl⟩ := yields_pure.mp h
      obtain ⟨_, p, hopen⟩ := opens_of_makeDirectories (keep_eq_true.mp (yields_lift.mp hmake))
      obtain ⟨_, hresult⟩ := yields_discard.mp hresult
      have hfirst := wrote_writeJson hopen Artifact.isFileName_result hresult
      have hscreens := wrote_forM (hopen.grows hfirst.grows)
        (fun f hf => hA.isFileName hf) hA.nodup hscreens
      exact ⟨p, made, between, hopen, hfirst, (hscreens.note hnote).print hprint⟩

/-- What can be read below the directory of an artifact. -/
theorem read?_of_opens {made : Workspace} {name : String} (hopen : made.Opens directory p)
    (hgrows : made.Grows w') (hname : IsFileName name) :
    w'.read? (joinPath directory name) = w'.file? (p ++ [name]) := by
  rw [read?, hopen w' hgrows name hname, Option.bind_some]

section Compiling

variable {settings : Settings}

/-- How a compilation that succeeds writes its files. -/
theorem wrote_of_compile (h : Yields ((hostWith now exchange).compile settings) w 0 w') :
    ∃ A between, Yields ((hostWith now exchange).compilation settings) w (.ok A) between ∧
      A.Separate ∧ ∃ p made first, made.Opens (joinPath settings.output A.id) p ∧
        Wrote p [("result.json", A.toJson)] made first ∧ Wrote p A.screenFiles first w' := by
  obtain ⟨result, between, hcompilation, h⟩ := yields_bind.mp h
  cases result with
  | error failure =>
      obtain ⟨hcode, _⟩ := Prod.mk.inj (yields_lift.mp h)
      exact absurd hcode (by decide)
  | ok A =>
      have hA := Artifact.separate_of_compilation hcompilation
      exact ⟨A, between, hcompilation, hA, wrote_artifact hA h⟩

/-- The file of the artifact is the artifact's unless a resource takes its name. -/
theorem read?_result_iff {A : Artifact} {made first : Workspace} (hopen : made.Opens directory p)
    (hfirst : Wrote p [("result.json", A.toJson)] made first)
    (hscreens : Wrote p A.screenFiles first w') :
    w'.read? (joinPath directory "result.json") = some A.toJson.pretty ↔ "result" ∉ A.slugs := by
  rw [read?_of_opens hopen (hfirst.grows.trans hscreens.grows) Artifact.isFileName_result,
    ← A.result_mem_iff]
  constructor
  · intro hread hmem
    obtain ⟨f, hf, hname⟩ := List.mem_map.mp hmem
    obtain ⟨e, _, rfl⟩ := List.mem_map.mp hf
    have hscreen := hscreens.written _ hf
    rw [hname, hread] at hscreen
    exact A.pretty_toJson_ne e.2 (Option.some.inj hscreen)
  · intro hnone
    rw [hscreens.kept _ fun f hf heq => ?_]
    · exact hfirst.written _ (List.mem_singleton_self _)
    · have hname : "result.json" = f.1 := by simpa using heq
      exact hnone (List.mem_map.mpr ⟨f, hf, hname.symm⟩)

/-- After a compilation that succeeds, the file of every resource holds its screens, and the file of
the artifact holds the artifact exactly if no resource has the slug `result`: otherwise two files of
the artifact have one name. -/
theorem compile_outputs (h : Yields ((hostWith now exchange).compile settings) w 0 w') :
    ∃ A between, Yields ((hostWith now exchange).compilation settings) w (.ok A) between ∧
      (∀ e ∈ A.specs, w'.read? (joinPath (joinPath settings.output A.id) (e.1 ++ ".json")) =
        some e.2.toJson.pretty) ∧
      (w'.read? (joinPath (joinPath settings.output A.id) "result.json") = some A.toJson.pretty ↔
        "result" ∉ A.slugs) ∧
      ((A.files.map (·.1)).Nodup ↔ "result" ∉ A.slugs) := by
  obtain ⟨A, between, hcompilation, hA, p, made, first, hopen, hfirst, hscreens⟩ :=
    wrote_of_compile h
  refine ⟨A, between, hcompilation, ?_, read?_result_iff hopen hfirst hscreens, ?_⟩
  · intro e he
    have hfile : (e.1 ++ ".json", e.2.toJson) ∈ A.screenFiles := List.mem_map_of_mem he
    rw [read?_of_opens hopen (hfirst.grows.trans hscreens.grows) (hA.isFileName hfile)]
    exact hscreens.written _ hfile
  · rw [Artifact.files, List.map_cons, List.nodup_cons, A.result_mem_iff]
    exact and_iff_left hA.nodup

end Compiling

/-- A workspace with a document whose one path names a resource `result`. -/
def resultWorkspace : Workspace :=
  let schema : Json := .object [("properties", .object [("a", .object [])])]
  let body : Json := .object [("content", .object [("application/json",
    .object [("schema", schema)])])]
  let root : Json := .object [("paths", .object [
    ("/result", .object [("get", .object [("responses", .object [("200", body)])])])])]
  ofFiles [("api.json", root.compact)] []

/-- Settings to compile that document without a language model. -/
def derivedSettings : Settings :=
  { Settings.default with spec := some "api.json", planner := ⟨.derived, none⟩ }

theorem compile_resultWorkspace :
    ∃ w', Yields (host.compile derivedSettings) resultWorkspace 0 w' := by
  apply exists_yields
  decide +kernel

theorem slugs_of_resultWorkspace {A : Artifact} {between : Workspace}
    (h : Yields (host.compilation derivedSettings) resultWorkspace (.ok A) between) :
    A.slugs = ["result"] := by
  have hslugs : ((host.compilation derivedSettings).run.run resultWorkspace).1.map
      (fun result => result.map Artifact.slugs) = .ok (.ok ["result"]) := by
    decide +kernel
  rw [h.answer] at hslugs
  exact Except.ok.inj (Except.ok.inj hslugs)

theorem compile_outputs_overwritten : ∃ (w' : Workspace) (A : Artifact),
    Yields (host.compile derivedSettings) resultWorkspace 0 w' ∧
    (∀ e ∈ A.specs, w'.read? (joinPath (joinPath derivedSettings.output A.id) (e.1 ++ ".json")) =
      some e.2.toJson.pretty) ∧ A.slugs = ["result"] ∧
    w'.read? (joinPath (joinPath derivedSettings.output A.id) "result.json") ≠
      some A.toJson.pretty := by
  obtain ⟨w', hw'⟩ := compile_resultWorkspace
  rw [← hostWith_host] at hw'
  obtain ⟨A, between, hcompilation, hscreens, hresult, _⟩ := compile_outputs hw'
  rw [hostWith_host] at hw' hcompilation
  have hslugs := slugs_of_resultWorkspace hcompilation
  refine ⟨w', A, hw', hscreens, hslugs, fun hread => hresult.mp hread ?_⟩
  rw [hslugs]
  exact List.mem_singleton_self _

/-- The artifact cannot always be read after a compilation that succeeds. -/
theorem screens_overwrite_artifact :
    ¬ ∀ (settings : Settings) (w w' between : Workspace) (A : Artifact),
      Yields (host.compile settings) w 0 w' →
      Yields (host.compilation settings) w (.ok A) between →
      w'.read? (joinPath (joinPath settings.output A.id) "result.json") =
        some A.toJson.pretty := by
  intro hall
  obtain ⟨w', hw'⟩ := compile_resultWorkspace
  have hcompile := hw'
  rw [← hostWith_host] at hcompile
  obtain ⟨A, between, hcompilation, _, p, made, first, hopen, hfirst, hscreens⟩ :=
    wrote_of_compile hcompile
  rw [hostWith_host] at hcompilation
  have hread := hall derivedSettings resultWorkspace w' between A hw' hcompilation
  refine (read?_result_iff hopen hfirst hscreens).mp hread ?_
  rw [slugs_of_resultWorkspace hcompilation]
  exact List.mem_singleton_self _

end Workspace

end ApiScreens
