import ApiScreens.CommandLine.Host
import ApiScreens.Keyed
import ApiScreens.Text.Split

/-!
# Workspaces

A host that is a value: a tree of files below one directory, environment variables, and the texts
that have been written. Its clock stands still, and its requests reach nobody.
-/

namespace ApiScreens

/-- A path from the top of a workspace. -/
abbrev Place := List String

/-- The files and directories of a workspace, its environment, and what has been written. -/
structure Workspace where
  files : List (Place × String)
  directories : List Place
  environment : Keyed String
  printed : String
  noted : String

namespace Workspace

/-- The content of a file. -/
def file? (w : Workspace) (p : Place) : Option String := w.files.lookup p

/-- Whether a place is a directory: the top, one that was made, or one that something lies in. -/
def isDirectory (w : Workspace) (p : Place) : Bool :=
  let below (q : Place) : Bool := p.isPrefixOf q
  p.isEmpty || w.directories.any below || w.files.any fun f => below f.1 && f.1 != p

/-- The workspace where a place is a directory. With `make` it is made one if nothing lies there. -/
def enter? (w : Workspace) (make : Bool) (p : Place) : Option Workspace :=
  if w.isDirectory p then some w
  else if make && (w.file? p).isNone then some { w with directories := w.directories ++ [p] }
  else none

/-- The place that a name leads to from a directory. -/
def follow? (p : Place) (name : String) : Option Place :=
  if name.isEmpty || name == "." then some p
  else if name == ".." then (if p.isEmpty then none else some p.dropLast)
  else some (p ++ [name])

/-- Goes on by one name from a directory. -/
def step (make : Bool) (reached : Workspace × Place) (name : String) :
    Option (Workspace × Place) := do
  let w ← reached.1.enter? make reached.2
  let p ← follow? reached.2 name
  return (w, p)

/-- The place that names lead to from a directory. With `make` the missing directories on the way
are made. -/
def walk (w : Workspace) (make : Bool) (p : Place) (names : List String) :
    Option (Workspace × Place) :=
  names.foldlM (step make) (w, p)

/-- The place of a path; a path from the root of the file system has none. -/
def place? (w : Workspace) (path : String) : Option Place :=
  if path.isEmpty || path.toList.head? == some '/' then none
  else (w.walk false [] (Text.split '/' path)).map (·.2)

/-- The content of the file at a path. -/
def read? (w : Workspace) (path : String) : Option String := (w.place? path).bind w.file?

/-- Whether something lies at a path. -/
def hasPath (w : Workspace) (path : String) : Bool :=
  (w.place? path).any fun p => (w.file? p).isSome || w.isDirectory p

/-- The workspace with a file at a path. -/
def write? (w : Workspace) (path content : String) : Option Workspace := do
  let p ← w.place? path
  guard !w.isDirectory p
  return { w with files := w.files.filter (·.1 != p) ++ [(p, content)] }

/-- The workspace with all directories of a path. -/
def makeDirectories? (w : Workspace) (path : String) : Option Workspace := do
  guard !(path.isEmpty || path.toList.head? == some '/')
  return (← w.walk true [] (Text.split '/' path ++ ["."])).1

/-- A workspace with files at paths. -/
def ofFiles (files : Keyed String) (environment : Keyed String) : Workspace :=
  let place (path : String) : Place :=
    (Text.split '/' path).filter fun name => !(name.isEmpty || name == ".")
  { files := files.map fun (path, content) => (place path, content)
    directories := []
    environment
    printed := ""
    noted := "" }

/-- Keeps a change, if there is one, and says so. -/
def keep (change : Workspace → Option Workspace) : StateM Workspace Bool := do
  match change (← get) with
  | some w =>
    set w
    return true
  | none => return false

/-- The host of workspaces. -/
def host : Host (StateM Workspace) where
  hasPath path := do return (← get).hasPath path
  readFile path := do return (← get).read? path
  writeFile path content := keep (·.write? path content)
  makeDirectories path := keep (·.makeDirectories? path)
  environment name := do return (← get).environment.get? name
  print text := modify fun w => { w with printed := w.printed ++ text }
  note text := modify fun w => { w with noted := w.noted ++ text }
  now := return ⟨0⟩
  exchange request := return .error request.unsent

end Workspace

end ApiScreens
