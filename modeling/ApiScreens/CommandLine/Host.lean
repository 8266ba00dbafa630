import ApiScreens.Chat.Http
import ApiScreens.Metrics.Timestamp

/-!
# Hosts of commands

What a command needs from where it runs: files, environment variables, two channels for text, a
clock, and a way to exchange requests for responses.
-/

namespace ApiScreens

/-- Where a command runs. -/
structure Host (m : Type → Type) where
  hasPath : String → m Bool
  readFile : String → m (Option String)
  writeFile : String → String → m Bool
  makeDirectories : String → m Bool
  environment : String → m (Option String)
  print : String → m Unit
  note : String → m Unit
  now : m Timestamp
  exchange : HttpRequest → m (Except ChatError HttpResponse)

end ApiScreens
