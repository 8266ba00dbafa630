import ApiScreens.Proofs.CommandLine.Outputs

/-!
# Paths of written files

A host can keep a list of the paths of the files that it is asked to write. On such a host a
compilation writes no file but the log of metrics, and then the files of its artifact in turn, up to
where it fails.
-/

namespace ApiScreens

open Host (Step joinPath)
open Host.Step

section Computations

variable {σ α β : Type}

/-- Computations on a state with a list of paths beside it. -/
abbrev Logged (σ : Type) := StateM (σ × List String)

/-- A computation that leaves the list of paths as it is. -/
def besidePaths (x : StateM σ α) : Logged σ α := do
  let s ← get
  let (a, rest) := x.run s.1
  set (rest, s.2)
  return a

/-- The host that also keeps the paths of the files that it is asked to write, in their order. -/
def Host.logged (host : Host (StateM σ)) : Host (Logged σ) where
  hasPath path := besidePaths (host.hasPath path)
  readFile path := besidePaths (host.readFile path)
  writeFile path content := do
    modify fun s => (s.1, s.2 ++ [path])
    besidePaths (host.writeFile path content)
  makeDirectories path := besidePaths (host.makeDirectories path)
  environment name := besidePaths (host.environment name)
  print text := besidePaths (host.print text)
  note text := besidePaths (host.note text)
  now := besidePaths host.now
  exchange request := besidePaths (host.exchange request)

/-- Whether a computation writes only files at some paths. -/
def WritesOnly (allowed : String → Prop) (x : Logged σ α) : Prop :=
  ∀ s, ∃ written, (x.run s).2.2 = s.2 ++ written ∧ ∀ path ∈ written, allowed path

variable {allowed : String → Prop}

namespace WritesOnly

theorem pure (a : α) : WritesOnly allowed (pure a : Logged σ α) :=
  fun s => ⟨[], (List.append_nil s.2).symm, List.forall_mem_nil _⟩

theorem beside (x : StateM σ α) : WritesOnly allowed (besidePaths x) :=
  fun s => ⟨[], (List.append_nil s.2).symm, List.forall_mem_nil _⟩

theorem write {host : Host (StateM σ)} {path : String} (h : allowed path) (content : String) :
    WritesOnly allowed (host.logged.writeFile path content) :=
  fun _ => ⟨[path], rfl, List.forall_mem_singleton.mpr h⟩

/-- What follows a computation needs to write only such files from where that one leads. -/
theorem bind_of {x : Logged σ α} {f : α → Logged σ β}
    (hx : WritesOnly allowed x) (hf : ∀ s a s', x.run s = (a, s') → WritesOnly allowed (f a)) :
    WritesOnly allowed (x >>= f) := by
  intro s
  obtain ⟨first, hfirst, hallowed⟩ := hx s
  obtain ⟨rest, hrest, hothers⟩ := hf s (x.run s).1 (x.run s).2 rfl (x.run s).2
  refine ⟨first ++ rest, ?_, List.forall_mem_append.mpr ⟨hallowed, hothers⟩⟩
  rw [← List.append_assoc, ← hfirst]
  exact hrest

theorem bind {x : Logged σ α} {f : α → Logged σ β} (hx : WritesOnly allowed x)
    (hf : ∀ a, WritesOnly allowed (f a)) : WritesOnly allowed (x >>= f) :=
  bind_of hx fun _ a _ _ => hf a

theorem discard {x : Logged σ α} (hx : WritesOnly allowed x) :
    WritesOnly allowed (discard x) := hx

/-- A step that fails writes nothing more. -/
theorem step_bind {x : Step (Logged σ) α} {f : α → Step (Logged σ) β}
    (hx : WritesOnly allowed x.run)
    (hf : ∀ s a s', Yields x s a s' → WritesOnly allowed (f a).run) :
    WritesOnly allowed (x >>= f).run := by
  rw [ExceptT.run_bind]
  refine bind_of hx fun s answer s' h => ?_
  match answer with
  | .ok a => exact hf s a s' h
  | .error _ => exact WritesOnly.pure _

theorem step_lift {x : Logged σ α} (hx : WritesOnly allowed x) :
    WritesOnly allowed (liftM x : Step (Logged σ) α).run :=
  hx.bind fun _ => WritesOnly.pure _

end WritesOnly

end Computations

section Planning

variable {σ α β : Type}

/-- Whether a metered computation writes no file. -/
def Silent (x : Host.Metered (Logged σ) α) : Prop :=
  ∀ (allowed : String → Prop) (sink : MetricsSink), WritesOnly allowed (x.run sink)

namespace Silent

theorem pure (a : α) : Silent (pure a : Host.Metered (Logged σ) α) :=
  fun _ _ => WritesOnly.pure _

theorem bind {x : Host.Metered (Logged σ) α} {f : α → Host.Metered (Logged σ) β}
    (hx : Silent x) (hf : ∀ a, Silent (f a)) : Silent (x >>= f) := by
  intro allowed sink
  rw [StateT.run_bind]
  exact (hx allowed sink).bind fun p => hf p.1 allowed p.2

theorem lift {x : Logged σ α} (hx : ∀ allowed, WritesOnly allowed x) :
    Silent (StateT.lift x) :=
  fun allowed _ => (hx allowed).bind fun _ => WritesOnly.pure _

end Silent

variable {p : ModelPlanner (Host.Metered (Logged σ))}
  {client : ChatClient (Host.Metered (Logged σ))}

theorem silent_attempt (hnow : Silent p.now) (hrecord : ∀ event, Silent (p.record event))
    (hclient : ∀ request, Silent (client.complete request)) (request : ChatRequest) :
    Silent (p.attempt client request) :=
  hnow.bind fun _ => (hclient request).bind fun _ => hnow.bind fun _ =>
    (hrecord _).bind fun _ => Silent.pure _

theorem silent_attempts (hnow : Silent p.now) (hrecord : ∀ event, Silent (p.record event))
    (hclient : ∀ request, Silent (client.complete request)) (request : ChatRequest)
    (budget : AttemptBudget) (last : Option PlanIssue) :
    Silent (p.attempts client request budget last) := by
  induction budget, last using ModelPlanner.attempts.induct with
  | case1 budget last hend =>
      rw [ModelPlanner.attempts]
      split
      · exact Silent.pure _
      · rename_i hnext
        rw [hend] at hnext
        contradiction
  | case2 budget last n hn ih =>
      rw [ModelPlanner.attempts]
      split
      · exact Silent.pure _
      · refine (silent_attempt hnow hrecord hclient request).bind fun outcome => ?_
        match outcome with
        | .ok _ => exact Silent.pure _
        | .error (.unavailable _) => exact Silent.pure _
        | .error (.invalid issue) => exact ih issue

end Planning

section Compiling

variable {σ α β : Type} {host : Host (StateM σ)} {settings : Settings} {allowed : String → Prop}

open Host

theorem silent_client (e : ChatEndpoint) (request : ChatRequest) :
    Silent ((meteredClient (e.client host.logged.exchange)).complete request) := by
  refine Silent.lift fun allowed => ?_
  unfold ChatEndpoint.client
  dsimp only
  split
  · exact WritesOnly.pure _
  · exact (WritesOnly.beside _).bind fun _ => WritesOnly.pure _

theorem writesOnly_apiKey : WritesOnly allowed (host.logged.apiKey settings) :=
  (WritesOnly.beside _).bind fun _ => WritesOnly.pure _

theorem writesOnly_modelPlanner : WritesOnly allowed (host.logged.modelPlanner settings) :=
  (writesOnly_apiKey.bind fun _ => WritesOnly.pure _).bind fun _ => WritesOnly.pure _

/-- The planner of a language model writes no file, since its client and its clock do not. -/
theorem silent_modelPlanner {s s' : σ × List String} {p : Planner (Metered (Logged σ))}
    (h : (host.logged.modelPlanner settings).run s = (p, s')) (model : ApiModel) :
    Silent (p.plan model) := by
  obtain rfl : ModelPlanner.planner {
      client := (((host.logged.apiKey settings).run s).1.map fun key =>
        ChatEndpoint.client ⟨key, settings.llm.baseUrl, settings.llm.model⟩
          host.logged.exchange).map meteredClient
      now := StateT.lift host.logged.now
      record := fun event => modify (·.record event)
      maxAttempts := settings.llm.maxAttempts
      maxTokens := settings.llm.maxTokens } = p := congrArg Prod.fst h
  cases ((host.logged.apiKey settings).run s).1 with
  | none => exact Silent.pure _
  | some key =>
      exact silent_attempts (Silent.lift fun _ => WritesOnly.beside _)
        (fun _ _ _ => WritesOnly.pure _) (silent_client _) _ _ _

theorem writesOnly_planner : WritesOnly allowed (host.logged.planner settings).run := by
  unfold Host.planner
  split
  · exact WritesOnly.step_lift writesOnly_modelPlanner
  · exact WritesOnly.pure _
  · unfold Host.fixturePlanner
    split
    · exact WritesOnly.pure _
    · refine WritesOnly.step_bind (WritesOnly.step_lift (WritesOnly.beside _)) fun _ text _ _ => ?_
      match text with
      | none => exact WritesOnly.pure _
      | some text =>
        dsimp only
        split <;> exact WritesOnly.pure _

theorem silent_planner {s s' : σ × List String} {p : Planner (Metered (Logged σ))}
    (h : Yields (host.logged.planner settings) s p s') (model : ApiModel) :
    Silent (p.plan model) := by
  unfold Host.planner at h
  split at h
  · exact silent_modelPlanner (yields_lift.mp h) model
  · obtain ⟨rfl, _⟩ := yields_pure.mp h
    exact Silent.pure _
  · unfold Host.fixturePlanner at h
    split at h
    · exact absurd h not_yields_throw
    · obtain ⟨text, _, _, h⟩ := yields_bind.mp h
      cases text with
      | none => exact absurd h not_yields_throw
      | some text =>
          dsimp only at h
          split at h
          · obtain ⟨rfl, _⟩ := yields_pure.mp h
            exact Silent.pure _
          · exact absurd h not_yields_throw

theorem writesOnly_openSink :
    WritesOnly (settings.metricsFile = some ·) (host.logged.openSink settings) := by
  unfold Host.openSink
  split
  · exact WritesOnly.pure _
  · rename_i path hpath
    refine (WritesOnly.beside _).bind fun _ => (WritesOnly.write hpath _).bind fun opened => ?_
    cases opened <;> exact WritesOnly.pure _

theorem writesOnly_closeSink (sink : MetricsSink) :
    WritesOnly (settings.metricsFile = some ·) (host.logged.closeSink settings sink) := by
  unfold Host.closeSink
  split
  · rename_i path log hpath _
    split
    · exact (WritesOnly.write hpath _).discard
    · exact WritesOnly.pure _
  · exact WritesOnly.pure _

theorem silent_compile {p : Planner (Metered (Logged σ))}
    (hp : ∀ model, Silent (p.plan model)) (prefixes : List String) (token : Option String)
    (text : String) : Silent (p.compile prefixes token text) := by
  unfold Planner.compile
  split
  · exact Silent.pure _
  · refine (hp _).bind fun answer => ?_
    cases answer <;> exact Silent.pure _

/-- Up to its artifact, a compilation writes no file but the log of metrics. -/
theorem writesOnly_compilation (host : Host (StateM σ)) (settings : Settings) :
    WritesOnly (settings.metricsFile = some ·) (host.logged.compilation settings).run := by
  unfold Host.compilation
  split
  · exact WritesOnly.pure _
  · have hnote (text : String) : WritesOnly (settings.metricsFile = some ·)
        (liftM (host.logged.note text) : Step (Logged σ) Unit).run :=
      WritesOnly.step_lift (WritesOnly.beside _)
    have hread (file : String) :
        WritesOnly (settings.metricsFile = some ·) (host.logged.readSpec file).run := by
      refine WritesOnly.step_bind (WritesOnly.step_lift (WritesOnly.beside _)) fun _ text _ _ => ?_
      cases text <;> exact WritesOnly.pure _
    refine WritesOnly.step_bind (hnote _) fun _ _ _ _ => ?_
    refine WritesOnly.step_bind (hread _) fun _ text _ _ => ?_
    refine WritesOnly.step_bind (WritesOnly.step_lift writesOnly_openSink) fun _ sink _ _ => ?_
    refine WritesOnly.step_bind writesOnly_planner fun _ planner _ hplanner => ?_
    refine WritesOnly.step_bind (hnote _) fun _ _ _ _ => ?_
    have hcompile := silent_compile (silent_planner hplanner) settings.pathPrefixes
      settings.sessionToken text
    refine WritesOnly.step_bind (WritesOnly.step_lift (hcompile _ sink)) fun _ _ _ _ => ?_
    refine WritesOnly.step_bind (WritesOnly.step_lift (writesOnly_closeSink _)) fun _ _ _ _ => ?_
    exact WritesOnly.pure _

end Compiling

section Artifacts

variable {σ α β : Type} {host : Host (StateM σ)} {paths : List String}

/-- The paths at which an artifact is written. -/
def Artifact.filePaths (output : String) (A : Artifact) : List String :=
  A.files.map fun f => joinPath (joinPath output A.id) f.1

/-- Whether a step writes files at some paths one after the other, up to where it fails. -/
def WritesInTurn (paths : List String) (x : Step (Logged σ) α) : Prop :=
  ∀ s, ∃ written, (x.run.run s).2.2 = s.2 ++ written ∧ written <+: paths ∧
    ∀ a, (x.run.run s).1 = .ok a → written = paths

namespace WritesInTurn

theorem pure (a : α) : WritesInTurn [] (pure a : Step (Logged σ) α) :=
  fun s => ⟨[], (List.append_nil s.2).symm, List.prefix_refl [], fun _ _ => rfl⟩

theorem throw (paths : List String) (e : CommandError) :
    WritesInTurn paths (throw e : Step (Logged σ) α) :=
  fun s => ⟨[], (List.append_nil s.2).symm, List.nil_prefix, fun _ h => nomatch h⟩

theorem beside (x : StateM σ α) :
    WritesInTurn [] (liftM (besidePaths x) : Step (Logged σ) α) :=
  fun s => ⟨[], (List.append_nil s.2).symm, List.prefix_refl [], fun _ _ => rfl⟩

theorem write (path content : String) : WritesInTurn [path]
    (liftM (host.logged.writeFile path content) : Step (Logged σ) Bool) :=
  fun _ => ⟨[path], rfl, List.prefix_refl [path], fun _ _ => rfl⟩

theorem bind {more : List String} {x : Step (Logged σ) α} {f : α → Step (Logged σ) β}
    (hx : WritesInTurn paths x) (hf : ∀ a, WritesInTurn more (f a)) :
    WritesInTurn (paths ++ more) (x >>= f) := by
  intro s
  obtain ⟨first, hfirst, hprefix, hall⟩ := hx s
  rw [run_bind]
  generalize x.run.run s = reached at hfirst hall ⊢
  obtain ⟨answer, between⟩ := reached
  cases answer with
  | error e =>
      exact ⟨first, hfirst, hprefix.trans (List.prefix_append paths more), fun _ h => nomatch h⟩
  | ok a =>
      obtain ⟨rest, hrest, hrestPrefix, hrestAll⟩ := hf a between
      obtain rfl := hall a rfl
      refine ⟨first ++ rest, ?_, (List.prefix_append_right_inj first).mpr hrestPrefix, ?_⟩
      · rw [← List.append_assoc, ← hfirst]
        exact hrest
      · intro b hb
        rw [hrestAll b hb]

theorem bind_nil {x : Step (Logged σ) α} {f : α → Step (Logged σ) β}
    (hx : WritesInTurn paths x) (hf : ∀ a, WritesInTurn [] (f a)) :
    WritesInTurn paths (x >>= f) := by
  have h := hx.bind hf
  rwa [List.append_nil] at h

theorem discard {x : Step (Logged σ) α} (hx : WritesInTurn paths x) :
    WritesInTurn paths (discard x) := by
  rw [discard_eq_bind]
  exact hx.bind_nil fun _ => WritesInTurn.pure _

theorem forM {path : α → String} {f : α → Step (Logged σ) PUnit}
    (hf : ∀ file, WritesInTurn [path file] (f file)) (files : List α) :
    WritesInTurn (files.map path) (files.forM f) := by
  induction files with
  | nil => exact WritesInTurn.pure _
  | cons file rest ih => exact (hf file).bind fun _ => ih

end WritesInTurn

theorem writesInTurn_writeJson (host : Host (StateM σ)) (directory : String)
    (file : String × Json) :
    WritesInTurn [joinPath directory file.1] (host.logged.writeJson directory file) := by
  refine (WritesInTurn.write _ _).bind_nil fun done => ?_
  cases done with
  | false => exact WritesInTurn.throw [] _
  | true => exact WritesInTurn.pure _

/-- The files of an artifact are written in their order, below the directory of its name. -/
theorem writesInTurn_writeArtifact (host : Host (StateM σ)) (output : String) (A : Artifact) :
    WritesInTurn (A.filePaths output) (host.logged.writeArtifact output A) := by
  unfold Host.writeArtifact
  dsimp only
  refine (WritesInTurn.beside _).bind fun done => ?_
  cases done with
  | false => exact WritesInTurn.throw _ _
  | true =>
      have hfirst := (writesInTurn_writeJson host (joinPath output A.id)
        ("result.json", A.toJson)).discard
      have hscreens := WritesInTurn.forM (fun file =>
        (writesInTurn_writeJson host (joinPath output A.id) file).bind fun path =>
          WritesInTurn.beside (host.note ("✅ Generated: " ++ Text.quoted path ++ "\n")))
        A.screenFiles
      exact hfirst.bind fun _ => hscreens.bind_nil fun _ => (WritesInTurn.beside _).bind fun _ =>
        (WritesInTurn.beside _).bind fun _ => WritesInTurn.pure _

/-- The paths of the files that compiling asks a host to write, in their order. -/
def Host.writtenPaths (host : Host (StateM σ)) (settings : Settings) (s : σ) : List String :=
  ((host.logged.compile settings).run.run (s, [])).2.2

/-- Compiling writes no file but the log of metrics and then, once there is an artifact, the files
of the artifact in turn. None of them is left out by a compilation that succeeds. -/
theorem writtenPaths_eq (host : Host (StateM σ)) (settings : Settings) (s : σ) :
    ∃ logged written, host.writtenPaths settings s = logged ++ written ∧
      (∀ path ∈ logged, settings.metricsFile = some path) ∧
      ((written = [] ∧ ((host.logged.compile settings).run.run (s, [])).1 ≠ .ok 0) ∨
        ∃ A between, Yields (host.logged.compilation settings) (s, []) (.ok A) between ∧
          written <+: A.filePaths settings.output ∧
          (((host.logged.compile settings).run.run (s, [])).1 = .ok 0 →
            written = A.filePaths settings.output)) := by
  obtain ⟨logged, hlogged, hmetrics⟩ :=
    writesOnly_compilation host settings (s, [])
  rw [List.nil_append] at hlogged
  refine ⟨logged, ?_⟩
  unfold Host.writtenPaths Host.compile
  rw [run_bind]
  cases hcompilation : (host.logged.compilation settings).run.run (s, []) with
  | mk answer between =>
      have hbetween : between.2 = logged := by rw [← hlogged, hcompilation]
      match answer with
      | .error e => exact ⟨[], by rw [List.append_nil, ← hbetween], hmetrics, Or.inl ⟨rfl, nofun⟩⟩
      | .ok (.error failure) =>
          have hcode : (1 : UInt32) ≠ 0 := by decide
          refine ⟨[], by rw [List.append_nil, ← hbetween]; rfl, hmetrics, Or.inl ⟨rfl, ?_⟩⟩
          exact fun h => hcode (Except.ok.inj h)
      | .ok (.ok A) =>
          obtain ⟨written, hwritten, hprefix, hall⟩ :=
            writesInTurn_writeArtifact host settings.output A between
          refine ⟨written, ?_, hmetrics, Or.inr ⟨A, between, hcompilation, hprefix, hall 0⟩⟩
          rw [← hbetween]
          exact hwritten

end Artifacts

end ApiScreens
