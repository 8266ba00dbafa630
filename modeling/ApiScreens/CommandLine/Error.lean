import ApiScreens.Text.Quoted

/-!
# Errors of commands

What keeps a command from being carried out, apart from faults of the document.
-/

namespace ApiScreens

/-- Why a command cannot be carried out; most causes name a file. -/
inductive CommandError where
  | settingsMissing (file : String)
  | settingsUnreadable (file : String)
  | settingsInvalid (file : String)
  | fixtureUnset
  | fixtureUnreadable (file : String)
  | fixtureInvalid (file : String)
  | noSpec
  | specUnreadable (file : String)
  | outputDirectory (path : String)
  | outputFile (path : String)
deriving DecidableEq

/-- What a message says about the cause. -/
def CommandError.message : CommandError → String
  | settingsMissing file => "Config file not found: " ++ Text.quoted file
  | settingsUnreadable file => "Failed to read config file: " ++ Text.quoted file
  | settingsInvalid file => "Failed to parse config file: " ++ Text.quoted file
  | fixtureUnset => "planner kind 'fixture' needs planner.fixture or --fixture"
  | fixtureUnreadable file => "Failed to read plan fixture: " ++ Text.quoted file
  | fixtureInvalid file => "Failed to parse plan fixture: " ++ Text.quoted file
  | noSpec => "No input source specified. Use --spec"
  | specUnreadable file => "Failed to read spec file: " ++ Text.quoted file
  | outputDirectory path => "Failed to create output directory: " ++ Text.quoted path
  | outputFile path => "Failed to write output file: " ++ Text.quoted path

end ApiScreens
