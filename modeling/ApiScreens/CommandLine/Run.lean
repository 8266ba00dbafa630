import ApiScreens.CommandLine.Arguments
import ApiScreens.CommandLine.Error
import ApiScreens.CommandLine.Host
import ApiScreens.Compilation.Artifact
import ApiScreens.Metrics.Log
import ApiScreens.Planner.LanguageModel
import ApiScreens.Settings.Reader

/-!
# Carrying out commands

Checking and hashing print what they find. Compiling writes the artifact and every screen into a
directory named for the identifier of the compilation. A failed compilation is printed as JSON.
-/

namespace ApiScreens

/-- The files of an artifact after the artifact's own: one for each screen. -/
def Artifact.screenFiles (a : Artifact) : List (String × Json) :=
  a.specs.map fun (slug, spec) => (slug ++ ".json", spec.toJson)

/-- The files of an artifact, in the order in which they are written. -/
def Artifact.files (a : Artifact) : List (String × Json) :=
  ("result.json", a.toJson) :: a.screenFiles

namespace Host

variable {m : Type → Type} [Monad m]

/-- A step that may fail. -/
abbrev Step (m : Type → Type) := ExceptT CommandError m

/-- Where settings are looked for if no file is named. -/
def defaultSettingsFile : String := "./.config/uispec/config.yaml"

/-- A path below another one. -/
def joinPath (directory name : String) : String :=
  if directory.isEmpty || directory.toList.getLast? == some '/' then directory ++ name
  else directory ++ "/" ++ name

/-- Reads the settings file; one that is not named may be missing. -/
def loadSettings (host : Host m) (file : Option String) : Step m Settings := do
  let path := file.getD defaultSettingsFile
  if !(← host.hasPath path) then
    if file.isSome then throw (.settingsMissing path) else return .default
  match ← host.readFile path with
  | none => throw (.settingsUnreadable path)
  | some text =>
    match Settings.ofText? text with
    | some settings => return settings
    | none => throw (.settingsInvalid path)

/-- The key of the language model; a blank one counts as none. -/
def apiKey (host : Host m) (s : Settings) : m (Option String) := do
  return (← host.environment s.llm.apiKeyVariable).filter fun key => !Text.isBlankText key

/-- The client of the language model, if there is a key for it. -/
def chatClient (host : Host m) (s : Settings) : m (Option (ChatClient m)) := do
  return (← host.apiKey s).map fun key =>
    ChatEndpoint.client ⟨key, s.llm.baseUrl, s.llm.model⟩ host.exchange

/-- Planning with metrics on the way to a sink. -/
abbrev Metered (m : Type → Type) := StateT MetricsSink m

/-- The same client where calls are metered. -/
def meteredClient (client : ChatClient m) : ChatClient (Metered m) :=
  ⟨client.model, fun request => StateT.lift (client.complete request)⟩

/-- The planner that the language model makes. -/
def modelPlanner (host : Host m) (s : Settings) : m (Planner (Metered m)) := do
  let client ← host.chatClient s
  return ModelPlanner.planner {
    client := client.map meteredClient
    now := StateT.lift host.now
    record := fun event => modify (·.record event)
    maxAttempts := s.llm.maxAttempts
    maxTokens := s.llm.maxTokens }

/-- The planner that answers the plan in a file. -/
def fixturePlanner (host : Host m) (file : Option String) : Step m (Planner (Metered m)) := do
  match file with
  | none => throw .fixtureUnset
  | some path =>
    match ← host.readFile path with
    | none => throw (.fixtureUnreadable path)
    | some text =>
      match Json.read? text with
      | some payload => return Planner.fixed payload
      | none => throw (.fixtureInvalid path)

/-- The planner that the settings ask for. -/
def planner (host : Host m) (s : Settings) : Step m (Planner (Metered m)) :=
  match s.planner.kind with
  | .llm => host.modelPlanner s
  | .derived => return Planner.derived
  | .fixture => host.fixturePlanner s.planner.fixture

/-- The sink that the settings ask for. The file of a log is made if it is missing. -/
def openSink (host : Host m) (s : Settings) : m MetricsSink :=
  match s.metricsFile with
  | none => return .discarding
  | some path => do
    let existing := (← host.readFile path).getD ""
    if ← host.writeFile path existing then return .logging (.onFile existing)
    else return .logging .unopened

/-- Shuts a sink down. -/
def closeSink (host : Host m) (s : Settings) (sink : MetricsSink) : m Unit := do
  match s.metricsFile, sink.shutdown with
  | some path, .logging log =>
    match log.content with
    | some content => discard (host.writeFile path content)
    | none => return
  | _, _ => return

/-- Reads the document. -/
def readSpec (host : Host m) (file : String) : Step m String := do
  match ← host.readFile file with
  | some text => return text
  | none => throw (.specUnreadable file)

/-- Prints a failed compilation. -/
def report (host : Host m) (failure : CompileFailure) : m UInt32 := do
  host.print (failure.toJson.pretty ++ "\n")
  return 1

/-- Writes a value into a directory and answers the path of the file. -/
def writeJson (host : Host m) (directory : String) (file : String × Json) : Step m String := do
  let path := joinPath directory file.1
  if ← host.writeFile path file.2.pretty then return path else throw (.outputFile path)

/-- Writes the files of an artifact. -/
def writeArtifact (host : Host m) (output : String) (a : Artifact) : Step m UInt32 := do
  let directory := joinPath output a.id
  if !(← host.makeDirectories directory) then throw (.outputDirectory directory)
  discard (host.writeJson directory ("result.json", a.toJson))
  a.screenFiles.forM fun file => do
    let path ← host.writeJson directory file
    host.note ("✅ Generated: " ++ Text.quoted path ++ "\n")
  host.note s!"🎉 Compiled {a.specs.length} resource(s)\n"
  host.print (a.id ++ "\n")
  return 0

/-- What the document that the settings name compiles to. -/
def compilation (host : Host m) (s : Settings) : Step m (Except CompileFailure Artifact) := do
  match s.spec with
  | none => throw .noSpec
  | some file =>
    host.note ("📖 Reading input from: " ++ Text.quoted file ++ "\n")
    let text ← host.readSpec file
    let sink ← host.openSink s
    let planner ← host.planner s
    host.note ("🔧 Compiling with '" ++ s.planner.kind.label ++ "' planner...\n")
    let (result, sink) ← (planner.compile s.pathPrefixes s.sessionToken text).run sink
    host.closeSink s sink
    return result

/-- Compiles the document that the settings name, and writes the artifact. -/
def compile (host : Host m) (s : Settings) : Step m UInt32 := do
  match ← host.compilation s with
  | .ok artifact => host.writeArtifact s.output artifact
  | .error failure => host.report failure

/-- Checks a document. -/
def check (host : Host m) (file : String) : Step m UInt32 := do
  match ResolvedDocument.ofText (← host.readSpec file) with
  | .ok document =>
    host.print ("ok (OpenAPI " ++ document.version.name ++ ")\n")
    return 0
  | .error failure => host.report failure

/-- Prints the hash of a document. -/
def hash (host : Host m) (file : String) (token : Option String) : Step m UInt32 := do
  match DocumentHash.ofText (← host.readSpec file) token with
  | .ok h =>
    host.print (h.hash ++ "\n" ++ h.id ++ "\n")
    return 0
  | .error failure => host.report failure

/-- Carries out a command. -/
def invoke (host : Host m) (i : Invocation) : Step m UInt32 := do
  let settings ← host.loadSettings i.settingsFile
  match i.command with
  | .compile overrides => host.compile (settings.override overrides)
  | .check file => host.check file
  | .hash file token => host.hash file token

/-- How the program is used. -/
def usage : String :=
  "Usage: uispec [-c FILE] compile [-s FILE] [-o DIR] [--session-token TEXT] " ++
  "[--planner llm|fixture|derived] [--fixture FILE]\n" ++
  "       uispec [-c FILE] check -s FILE\n" ++
  "       uispec [-c FILE] hash -s FILE [--session-token TEXT]\n"

/-- Runs the program on its arguments and answers its exit code. -/
def run (host : Host m) (args : List String) : m UInt32 := do
  match Arguments.read args with
  | .misuse =>
    host.note usage
    return 2
  | .help =>
    host.print usage
    return 0
  | .version =>
    host.print "uispec-compiler 0.1.0\n"
    return 0
  | .run invocation =>
    match ← (host.invoke invocation).run with
    | .ok code => return code
    | .error e =>
      host.note ("Error: " ++ e.message ++ "\n")
      return 1

end Host

end ApiScreens
