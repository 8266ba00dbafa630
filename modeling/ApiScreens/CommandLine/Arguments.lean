import ApiScreens.Settings.Basic

/-!
# Command-line arguments

A command line names a command and gives values to its options. An option is written with its name
or its letter, and its value follows as the next argument or in the same one. Options are given once
at most, files have names that are not empty, and there are no other arguments.
-/

namespace ApiScreens

/-- What an option's value is. -/
inductive ValueKind where
  | file
  | text
  | planner
deriving DecidableEq

/-- Whether a value is of a kind. -/
def ValueKind.accepts : ValueKind → String → Bool
  | file, v => !v.isEmpty
  | text, _ => true
  | planner, v => (PlannerKind.named.lookup v).isSome

/-- An option by its name and perhaps its letter. -/
structure OptionShape where
  name : String
  letter : Option Char
  kind : ValueKind

/-- A command that is to be carried out. -/
inductive Command where
  | compile (overrides : Overrides)
  | check (spec : String)
  | hash (spec : String) (sessionToken : Option String)

/-- A command with the settings file that goes with it. -/
structure Invocation where
  settingsFile : Option String
  command : Command

/-- What a command line asks for. -/
inductive Asked where
  | run (invocation : Invocation)
  | help
  | version
  | misuse

namespace Arguments

/-- The option that every command has. -/
def config : OptionShape := ⟨"config", some 'c', .file⟩

/-- The option that names the document. -/
def spec : OptionShape := ⟨"spec", some 's', .file⟩

/-- The option that sets the session token. -/
def sessionToken : OptionShape := ⟨"session-token", none, .text⟩

/-- The options of each command. -/
def commands : List (String × List OptionShape) := [
  ("compile", [spec, ⟨"output", some 'o', .file⟩, sessionToken, ⟨"planner", none, .planner⟩,
    ⟨"fixture", none, .file⟩, config]),
  ("check", [spec, config]),
  ("hash", [spec, sessionToken, config])]

/-- What has been read of a command line: the values of options, the option whose value comes
next, and whether only arguments without a name may follow. -/
structure State where
  values : Keyed String
  pending : Option OptionShape
  ended : Bool

/-- Nothing read. -/
def State.start : State := ⟨[], none, false⟩

/-- Where reading options ends before the arguments do. -/
inductive Stop where
  | help
  | version
  | misuse
  | command (values : Keyed String) (name : String) (rest : List String)

/-- Gives an option its value. -/
def State.give (s : State) (o : OptionShape) (value : String) : Except Stop State :=
  if o.kind.accepts value && !s.values.has o.name then
    .ok { s with values := s.values ++ [(o.name, value)], pending := none }
  else .error .misuse

/-- An option that has been named, with the value in the same argument. -/
def State.name (s : State) (o : OptionShape) (value : Option (List Char)) : Except Stop State :=
  match value with
  | some v => s.give o (String.ofList v)
  | none => .ok { s with pending := some o }

/-- The name and the value of an argument that begins with two dashes. -/
def nameAndValue (cs : List Char) : List Char × Option (List Char) :=
  match cs.span (· != '=') with
  | (name, _ :: value) => (name, some value)
  | (name, []) => (name, none)

/-- The value in the same argument as a letter, perhaps after an equals sign. -/
def letterValue : List Char → Option (List Char)
  | [] => none
  | '=' :: value => some value
  | value => some value

/-- Reads an argument; `top` holds where a command may be named. -/
def step (shapes : List OptionShape) (top : Bool) (s : State) (arg : String) (rest : List String) :
    Except Stop State :=
  if s.ended then .error .misuse
  else match arg.toList, s.pending with
    | ['-'], some o => s.give o arg
    | '-' :: _ :: _, some _ => .error .misuse
    | ['-', '-'], none => .ok { s with ended := true }
    | '-' :: '-' :: cs, none =>
      let (name, value) := nameAndValue cs
      match shapes.find? (·.name.toList == name) with
      | some o => s.name o value
      | none =>
        if value.isSome then .error .misuse
        else if name = "help".toList then .error .help
        else if top ∧ name = "version".toList then .error .version
        else .error .misuse
    | '-' :: c :: cs, none =>
      match shapes.find? (·.letter == some c) with
      | some o => s.name o (letterValue cs)
      | none =>
        if c = 'h' then .error .help
        else if top ∧ c = 'V' then .error .version
        else .error .misuse
    | _, some o => s.give o arg
    | _, none => if top then .error (.command s.values arg rest) else .error .misuse

/-- Reads arguments to their end. -/
def run (shapes : List OptionShape) (top : Bool) (s : State) : List String → Except Stop State
  | [] => if s.pending.isSome then .error .misuse else .ok s
  | arg :: rest => do run shapes top (← step shapes top s arg rest) rest

/-- The command with these values of options; a document must be named for all but compiling. -/
def command? (name : String) (values : Keyed String) : Option Command :=
  let spec := values.get? "spec"
  match name with
  | "compile" => some (.compile ⟨spec, values.get? "output", values.get? "session-token",
      (values.get? "planner").bind (PlannerKind.named.lookup ·), values.get? "fixture"⟩)
  | "check" => spec.map .check
  | "hash" => spec.map fun file => .hash file (values.get? "session-token")
  | _ => none

/-- Whether help can be had on what the arguments name. -/
def hasHelp : List String → Bool
  | [] => true
  | [name] => name == "help" || (commands.lookup name).isSome
  | _ => false

/-- What the arguments after the name of a command ask for. -/
def ofCommand (values : Keyed String) (name : String) (rest : List String) : Asked :=
  if name = "help" then (if hasHelp rest then .help else .misuse)
  else match commands.lookup name with
    | none => .misuse
    | some shapes =>
      match run shapes false .start rest with
      | .ok s =>
        let file := s.values.get? "config" <|> values.get? "config"
        ((command? name s.values).map fun c => Asked.run ⟨file, c⟩).getD .misuse
      | .error .help => .help
      | .error _ => .misuse

/-- What a command line asks for. -/
def read (args : List String) : Asked :=
  match run [config] true .start args with
  | .error (.command values name rest) => ofCommand values name rest
  | .error .help => .help
  | .error .version => .version
  | .error .misuse | .ok _ => .misuse

end Arguments

end ApiScreens
