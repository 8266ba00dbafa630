import ApiScreens.Proofs.CommandLine.WrittenPaths
import ApiScreens.Proofs.Text.SlugGroups

/-!
# Slugs in file names

A slug has no separator and no point, so it is the name of a file, and so are slugs with an ending.
Screens stand under slugs, and the identifier of a compilation is one too. So whatever is written
beside the log of metrics lies in the directory of its artifact, two names below the directory for
outputs.
-/

namespace ApiScreens

open Host (joinPath)
open Host.Step Text

section Names

variable {s : String}

/-- A slug is the name of a file, as it has no separator and no point. -/
theorem Text.IsSlug.isFileName (h : IsSlug s) : IsFileName s := by
  have hpoint : '.' ∉ s.toList := h.not_mem (by decide) (by decide)
  refine ⟨h.ne_empty, ?_, ?_, h.not_mem (by decide) (by decide)⟩
  · rintro rfl
    exact hpoint (by decide)
  · rintro rfl
    exact hpoint (by decide)

/-- Hexadecimal digits are characters of slugs, so the first few of them are one. -/
theorem isSlug_firstChars_hex (text : String) :
    IsSlug (Canonical.firstChars Canonical.idLength (Sha256.hexOfText text)) := by
  have hdigits : ∀ n < 16, isGroupChar (Nat.digitChar n) = true := by decide
  have hhex : ∀ c ∈ (Sha256.hexOfText text).toList, isGroupChar c = true := by
    intro c hc
    rw [Sha256.hexOfText, Sha256.hex, String.toList_ofList, List.mem_flatMap] at hc
    obtain ⟨b, _, hc⟩ := hc
    have hb := b.toNat_lt
    simp only [List.mem_cons, List.not_mem_nil, or_false] at hc
    rcases hc with rfl | rfl
    · exact hdigits _ (by omega)
    · exact hdigits _ (by omega)
  have hsome : (Canonical.firstChars Canonical.idLength (Sha256.hexOfText text)).toList ≠ [] := by
    rw [Canonical.firstChars, String.toList_ofList, Sha256.hexOfText, Sha256.hex,
      String.toList_ofList, Sha256.hash]
    simp [Sha256.bigEndian, Canonical.idLength]
  apply isSlug_of_group hsome
  intro c hc
  rw [Canonical.firstChars, String.toList_ofList] at hc
  exact hhex c (List.mem_of_mem_take hc)

end Names

section Artifacts

variable {A : Artifact}

theorem Artifact.isSlug_id {d : PreparedDocument} {plan : Plan} {prefixes : List String}
    {token : Option String} {text : String}
    (hd : PreparedDocument.ofText prefixes token text = .ok d) (h : d.artifact plan = .ok A) :
    IsSlug A.id := by
  obtain ⟨specs, _, hA⟩ := bind_eq_ok.mp h
  obtain rfl := Except.ok.inj hA
  obtain ⟨resolved, _, hd⟩ := bind_eq_ok.mp hd
  obtain ⟨build, _, hd⟩ := bind_eq_ok.mp hd
  obtain rfl := Except.ok.inj hd
  unfold DocumentHash.ofRoot Canonical.compileId
  dsimp only
  split <;> exact isSlug_firstChars_hex _

/-- The files of an artifact are named by the slugs of its screens, but for the artifact's own. -/
theorem Artifact.filePaths_eq (output : String) (A : Artifact) :
    A.filePaths output = ("result" :: A.slugs).map fun key =>
      joinPath (joinPath output A.id) (key ++ ".json") := by
  simp [filePaths, files, screenFiles, slugs]

/-- Whether a path goes down from a directory, by the names of a list one after the other. -/
def GoesDown (directory path : String) (below : List String) : Prop :=
  (∀ name ∈ below, IsFileName name) ∧ ∃ above,
    (Text.split '/' directory = above ∨ Text.split '/' directory = above ++ [""]) ∧
      Text.split '/' path = above ++ below

theorem goesDown_joinPath {directory inner name : String} (hinner : IsFileName inner)
    (hname : IsFileName name) :
    GoesDown directory (joinPath (joinPath directory inner) name) [inner, name] := by
  obtain ⟨above, hdirectory, hbelow⟩ := split_joinPath directory
  obtain ⟨above', hdirectory', hbelow'⟩ := split_joinPath (joinPath directory inner)
  refine ⟨by simp [hinner, hname], above, hdirectory, ?_⟩
  have hsame : above' = above ++ [inner] := by
    rw [hbelow inner hinner] at hdirectory'
    rcases hdirectory' with hsame | hempty
    · exact hsame.symm
    · obtain ⟨_, hlast⟩ := List.append_inj' hempty rfl
      exact absurd (List.cons.inj hlast).1 hinner.1
  rw [hbelow' name hname, hsame, List.append_assoc]
  rfl

/-- The files of an artifact that a compilation answers are named by slugs, and lie two names below
the directory for outputs. -/
theorem placed_of_compilation {σ : Type} {host : Host (StateM σ)} {settings : Settings} {s s' : σ}
    (h : Yields (host.compilation settings) s (.ok A) s') :
    ∀ key ∈ "result" :: A.slugs, IsSlug key ∧ GoesDown settings.output
      (joinPath (joinPath settings.output A.id) (key ++ ".json")) [A.id, key ++ ".json"] := by
  obtain ⟨text, d, plan, hd, hA⟩ := Artifact.artifact_of_compilation h
  have hresult : IsSlug "result" := isSlug_of_group (by decide) (by simp [isGroupChar])
  have hslugs := List.forall_mem_cons.mpr ⟨hresult, Artifact.isSlug_slugs hA⟩
  intro key hkey
  have hname := Artifact.isFileName_append_json ((hslugs key hkey).not_mem (by decide) (by decide))
  exact ⟨hslugs key hkey, goesDown_joinPath (Artifact.isSlug_id hd hA).isFileName hname⟩

end Artifacts

section Compiling

variable {σ : Type} {host : Host (StateM σ)} {settings : Settings} {s : σ}

/-- Whatever compiling asks a host to write beside the log of metrics lies in the directory of an
artifact, under the name that a slug makes. -/
theorem goesDown_of_mem_writtenPaths {path : String} (h : path ∈ host.writtenPaths settings s) :
    settings.metricsFile = some path ∨
      ∃ A between, Yields (host.logged.compilation settings) (s, []) (.ok A) between ∧
        ∃ key ∈ "result" :: A.slugs, IsSlug key ∧
          GoesDown settings.output path [A.id, key ++ ".json"] := by
  obtain ⟨logged, written, hpaths, hlogged, houtcome⟩ := writtenPaths_eq host settings s
  rw [hpaths] at h
  rcases List.mem_append.mp h with h | h
  · exact Or.inl (hlogged path h)
  · rcases houtcome with ⟨rfl, _⟩ | ⟨A, between, hA, hprefix, _⟩
    · contradiction
    · have hplace := hprefix.mem h
      rw [A.filePaths_eq] at hplace
      obtain ⟨key, hkey, rfl⟩ := List.mem_map.mp hplace
      obtain ⟨hslug, hdown⟩ := placed_of_compilation hA key hkey
      exact Or.inr ⟨A, between, hA, key, hkey, hslug, hdown⟩

/-- A compilation that succeeds writes its artifact and all screens there. -/
theorem exists_mem_writtenPaths
    (h : ((host.logged.compile settings).run.run (s, [])).1 = .ok 0) :
    ∃ A between, Yields (host.logged.compilation settings) (s, []) (.ok A) between ∧
      ∀ key ∈ "result" :: A.slugs, ∃ path ∈ host.writtenPaths settings s,
        GoesDown settings.output path [A.id, key ++ ".json"] := by
  obtain ⟨logged, written, hpaths, _, houtcome⟩ := writtenPaths_eq host settings s
  rcases houtcome with ⟨_, hfailed⟩ | ⟨A, between, hA, _, hall⟩
  · exact absurd h hfailed
  · refine ⟨A, between, hA, fun key hkey => ?_⟩
    obtain ⟨_, hdown⟩ := placed_of_compilation hA key hkey
    refine ⟨_, ?_, hdown⟩
    rw [hpaths, hall h, A.filePaths_eq]
    exact List.mem_append_right _ (List.mem_map_of_mem hkey)

end Compiling

/-- Slugs are groups of small letters and digits with single hyphens between them. They hold the
letters and digits of their texts, they are their own slugs, and they are names of files. Screens
stand under slugs, so whatever a host does, compiling asks it for no file but the log of metrics and
files in the directory of an artifact, named by the slugs of its screens or `result`; none of these
is left out by a compilation that succeeds. -/
theorem slugs_name_files :
    (∀ s : String, IsSlug (slug s) ∧ IsFileName (slug s) ∧ '.' ∉ (slug s).toList ∧
      '\\' ∉ (slug s).toList ∧ slug (slug s) = slug s ∧
      if s.toList.filter isSlugChar = [] then slug s = "resource"
      else (slug s).toList.filter isSlugChar = (s.toList.filter isSlugChar).map asciiLowercase) ∧
    (∀ (model : ApiModel) (plan : Plan) (specs : Keyed ScreenSpec),
      plan.lower model = .ok specs → ∀ e ∈ specs, IsSlug e.1) ∧
    ∀ (σ : Type) (host : Host (StateM σ)) (settings : Settings) (s : σ),
      (∀ path ∈ host.writtenPaths settings s, settings.metricsFile = some path ∨
        ∃ A between, Yields (host.logged.compilation settings) (s, []) (.ok A) between ∧
          ∃ key ∈ "result" :: A.slugs, IsSlug key ∧
            GoesDown settings.output path [A.id, key ++ ".json"]) ∧
      (((host.logged.compile settings).run.run (s, [])).1 = .ok 0 →
        ∃ A between, Yields (host.logged.compilation settings) (s, []) (.ok A) between ∧
          ∀ key ∈ "result" :: A.slugs, ∃ path ∈ host.writtenPaths settings s,
            GoesDown settings.output path [A.id, key ++ ".json"]) := by
  refine ⟨fun s => ?_, fun _ _ _ h => Plan.isSlug_of_lower h, fun _ _ _ _ =>
    ⟨fun _ h => goesDown_of_mem_writtenPaths h, exists_mem_writtenPaths⟩⟩
  have hs := isSlug_slug s
  refine ⟨hs, hs.isFileName, hs.not_mem (by decide) (by decide),
    hs.not_mem (by decide) (by decide), hs.slug_eq_self, ?_⟩
  split
  · rename_i hnone
    exact slug_of_none hnone
  · rename_i hsome
    exact filter_slug hsome

namespace Workspace

/-- A workspace with a document whose one operation has a tag that climbs out of directories. -/
def climbingWorkspace : Workspace :=
  let schema : Json := .object [("properties", .object [("a", .object [])])]
  let body : Json := .object [("content", .object [("application/json",
    .object [("schema", schema)])])]
  let root : Json := .object [("paths", .object [("/a", .object [("get", .object [
    ("tags", .array [.string "../../Étc/Pass WD"]), ("responses", .object [("200", body)])])])])]
  ofFiles [("api.json", root.compact)] []

theorem slugs_name_files_climbing :
    (∃ specs, (Plan.samplePlan "Items" "a").lower Plan.sampleModel = .ok specs ∧
      ∃ e ∈ specs, IsSlug e.1) ∧
    ((host.logged.compile derivedSettings).run.run (climbingWorkspace, [])).1 = .ok 0 ∧
    (∃ A between,
      Yields (host.logged.compilation derivedSettings) (climbingWorkspace, []) (.ok A) between ∧
      ∃ key ∈ "result" :: A.slugs,
        "generated/f22d35a7bd2a/tc-pass-wd.json" ∈
          host.writtenPaths derivedSettings climbingWorkspace ∧
        GoesDown "generated" "generated/f22d35a7bd2a/tc-pass-wd.json" [A.id, key ++ ".json"]) ∧
    ∃ A between,
      Yields (host.logged.compilation derivedSettings) (climbingWorkspace, []) (.ok A) between ∧
      ∃ path ∈ host.writtenPaths derivedSettings climbingWorkspace,
        GoesDown "generated" path [A.id, "result.json"] := by
  have hkeys : ((Plan.samplePlan "Items" "a").lower Plan.sampleModel).map (·.map (·.1)) =
      .ok ["items"] := by
    decide +kernel
  obtain ⟨specs, hspecs, hkeys⟩ := map_eq_ok.mp hkeys
  obtain ⟨e, he, _⟩ := List.mem_map.mp (hkeys ▸ List.mem_singleton_self "items")
  -- One evaluation gives both the exit code and the paths.
  have hrun : (((host.logged.compile derivedSettings).run.run (climbingWorkspace, [])).1.toOption,
      host.writtenPaths derivedSettings climbingWorkspace) =
        (some 0, ["generated/f22d35a7bd2a/result.json",
          "generated/f22d35a7bd2a/tc-pass-wd.json"]) := by
    decide +kernel
  obtain ⟨hcode, hwritten⟩ := Prod.mk.inj hrun
  have hexit := toOption_eq_some.mp hcode
  have hmem : "generated/f22d35a7bd2a/tc-pass-wd.json" ∈
      host.writtenPaths derivedSettings climbingWorkspace := by
    rw [hwritten]
    exact List.mem_cons_of_mem _ List.mem_cons_self
  obtain ⟨_, hlower, hcompile⟩ := slugs_name_files
  obtain ⟨hpaths, hall⟩ := hcompile Workspace host derivedSettings climbingWorkspace
  have hnone : derivedSettings.metricsFile = none := rfl
  refine ⟨⟨specs, hspecs, e, he, hlower _ _ specs hspecs e he⟩, hexit, ?_, ?_⟩
  · rcases hpaths _ hmem with hmetrics | ⟨A, between, hA, key, hkey, _, hdown⟩
    · exact absurd (hnone.symm.trans hmetrics) (Option.some_ne_none _).symm
    · exact ⟨A, between, hA, key, hkey, hmem, hdown⟩
  · obtain ⟨A, between, hA, hkeys⟩ := hall hexit
    exact ⟨A, between, hA, hkeys "result" List.mem_cons_self⟩

end Workspace

end ApiScreens
