import ApiScreens.CommandLine.Run
import Std.Time.DateTime.Timestamp

/-!
# The program

The host that is the machine the program runs on. It has no connection to a network, so requests
to a language model reach nobody.
-/

namespace ApiScreens

/-- Whether an action goes through. -/
def succeeds (action : IO Unit) : IO Bool := do
  try
    action
    return true
  catch _ => return false

/-- The host of the program. -/
def machine : Host IO where
  hasPath path := succeeds (discard (IO.FS.Handle.mk path .read))
  readFile path := do
    try return some (← IO.FS.readFile path) catch _ => return none
  writeFile path content := succeeds (IO.FS.writeFile path content)
  makeDirectories path := succeeds (IO.FS.createDirAll path)
  environment name := IO.getEnv name
  print text := IO.print text
  note text := IO.eprint text
  now := do return ⟨(← Std.Time.Timestamp.now).toMillisecondsSinceUnixEpoch.toInt⟩
  exchange request := return .error request.unsent

end ApiScreens

/-- Runs the program. -/
def main (args : List String) : IO UInt32 := ApiScreens.machine.run args
