import ApiScreens.Api.Grouping
import ApiScreens.Planner.LanguageModel

/-!
# Settings

What can be set for a compilation, with the values that hold where nothing is set. The document to
compile and the session token come from the command line alone.
-/

namespace ApiScreens

/-- The kinds of planners. -/
inductive PlannerKind where
  | llm
  | fixture
  | derived
deriving DecidableEq

namespace PlannerKind

/-- The name of a kind. -/
def name : PlannerKind → String
  | llm => "llm"
  | fixture => "fixture"
  | derived => "derived"

/-- The name that a progress line gives a kind. -/
def label : PlannerKind → String
  | llm => "Llm"
  | fixture => "Fixture"
  | derived => "Derived"

/-- All kinds. -/
def all : List PlannerKind := [llm, fixture, derived]

/-- The kinds by their names. -/
def named : List (String × PlannerKind) := all.map fun k => (k.name, k)

end PlannerKind

/-- How a language model is called. -/
structure ModelSettings where
  model : String
  baseUrl : String
  apiKeyVariable : String
  timeoutSeconds : UInt64
  maxTokens : UInt32
  maxAttempts : UInt32
deriving DecidableEq

/-- Which planner is used, and the file of the plan that a fixture planner answers. -/
structure PlannerSettings where
  kind : PlannerKind
  fixture : Option String
deriving DecidableEq

/-- All settings. -/
structure Settings where
  llm : ModelSettings
  pathPrefixes : List String
  planner : PlannerSettings
  metricsFile : Option String
  output : String
  spec : Option String
  sessionToken : Option String
deriving DecidableEq

namespace Settings

/-- The settings that hold where nothing is set. -/
def default : Settings where
  llm :=
    { model := "gpt-4o-mini"
      baseUrl := "https://api.openai.com/v1"
      apiKeyVariable := "OPENAI_API_KEY"
      timeoutSeconds := 120
      maxTokens := ModelPlanner.defaultMaxTokens
      maxAttempts := AttemptBudget.defaultLimit }
  pathPrefixes := Grouping.defaultPrefixes
  planner := ⟨.llm, none⟩
  metricsFile := none
  output := "generated"
  spec := none
  sessionToken := none

end Settings

/-- What the command line sets. -/
structure Overrides where
  spec : Option String
  output : Option String
  sessionToken : Option String
  planner : Option PlannerKind
  fixture : Option String
deriving DecidableEq

namespace Settings

/-- Settings with what the command line sets. A fixture calls for the fixture planner unless
another planner is named. -/
def override (s : Settings) (o : Overrides) : Settings :=
  let kind := o.planner.getD (if o.fixture.isSome then .fixture else s.planner.kind)
  { s with
    spec := o.spec <|> s.spec
    output := o.output.getD s.output
    sessionToken := o.sessionToken <|> s.sessionToken
    planner := ⟨kind, o.fixture <|> s.planner.fixture⟩ }

end Settings

end ApiScreens
