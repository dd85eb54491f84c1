import Storyline.Text.Search

/-!
# Command-line arguments

A command line names a command and gives it a script. The option `--manifest` may stand before the
command or after it, and what stands after it counts. An option takes its value from the next
argument or after an equals sign, and may be given once on either side of the command. Two hyphens
end the options. Help can be asked for by an option, or as a command that takes the name of another.
-/

namespace Storyline.CommandLine

/-- What to do with a script. -/
inductive Task where
  /-- Print the canonical script. -/
  | dsl
  /-- Print the transcript. -/
  | transcript
  /-- Print the scenario, with static lines if asked for. -/
  | scenario (includeStatic : Bool)
  /-- Print the SQL scripts. -/
  | sql
  /-- Write all of these into a folder. -/
  | compile (folder : String)
  /-- Log what is wrong with the script, and fail over it if asked to. -/
  | lint (denyWarnings : Bool)
  deriving DecidableEq, Repr

/-- A command that can be run. -/
structure Invocation where
  /-- The path of the manifest, if one is named. -/
  manifest : Option String
  /-- The path of the script. -/
  script : String
  /-- The path of a scenario to fill the script from. -/
  scenario : Option String
  /-- What to do. -/
  task : Task
  deriving DecidableEq, Repr

/-- What a command line asks for. -/
inductive Request where
  /-- The version of the program. -/
  | version
  /-- How the program is used. -/
  | help
  /-- To run a command. -/
  | run (invocation : Invocation)
  deriving DecidableEq, Repr

/-- Why arguments are not read to their end. -/
inductive Stop where
  /-- They cannot be understood. -/
  | misuse
  /-- They ask for the version. -/
  | version
  /-- They ask for help. -/
  | help
  deriving DecidableEq, Repr

/-- The options that a command knows. -/
structure Options where
  /-- The names of options with a value. -/
  valued : List String
  /-- The names of switches. -/
  switches : List String

/-- What a command was given. -/
structure Given where
  /-- The values of options. -/
  values : List (String × String) := []
  /-- The switches. -/
  switches : List String := []
  /-- The arguments that belong to no option. -/
  operands : List String := []

/-- An argument, by its look. -/
inductive Shape where
  /-- The two hyphens that end the options. -/
  | separator
  /-- A long option, with the value after its equals sign. -/
  | long (name : String) (attached : Option String)
  /-- A short option, by its first letter. -/
  | short (letter : Char)
  /-- Anything else; a single hyphen is no option. -/
  | plain

/-- The look of an argument. -/
def Shape.of (arg : String) : Shape :=
  match arg.toList with
  | ['-', '-'] => .separator
  | '-' :: '-' :: rest =>
    let name := rest.takeWhile (· != '=')
    .long (String.ofList name)
      (match rest.dropWhile (· != '=') with
        | _ :: value => some (String.ofList value)
        | [] => none)
  | '-' :: letter :: _ => .short letter
  | _ => .plain

/-- Whether an argument can be a value or an operand: it does not look like an option. -/
def isPlain (arg : String) : Bool :=
  match Shape.of arg with
  | .plain => true
  | _ => false

namespace Given

/-- Adds the value of an option. -/
def addValue (given : Given) (name value : String) : Except Stop Given :=
  if value = "" ∨ given.values.any (·.1 == name) then .error .misuse
  else .ok { given with values := (name, value) :: given.values }

/-- Adds a switch. -/
def addSwitch (given : Given) (name : String) : Except Stop Given :=
  if name ∈ given.switches then .error .misuse
  else .ok { given with switches := name :: given.switches }

/-- Adds an operand; a command takes one. -/
def addOperand (given : Given) (arg : String) : Except Stop Given :=
  if arg = "" ∨ given.operands ≠ [] then .error .misuse
  else .ok { given with operands := [arg] }

/-- The value of an option. -/
def value? (given : Given) (name : String) : Option String := given.values.lookup name

/-- Whether a switch was given. -/
def has (given : Given) (name : String) : Bool := name ∈ given.switches

end Given

/-- Reads the arguments after the name of a command. -/
def readArguments (options : Options) : Given → List String → Except Stop Given
  | given, [] => .ok given
  | given, arg :: rest =>
    match Shape.of arg with
    | .separator => rest.foldlM Given.addOperand given
    | .plain => do readArguments options (← given.addOperand arg) rest
    | .short letter => .error (if letter = 'h' then .help else .misuse)
    | .long name attached =>
      if name ∈ options.valued then
        match attached with
        | some value => do readArguments options (← given.addValue name value) rest
        | none =>
          match rest with
          | value :: rest =>
            if isPlain value then do readArguments options (← given.addValue name value) rest
            else .error .misuse
          | [] => .error .misuse
      else if attached.isSome then .error .misuse
      else if name ∈ options.switches then do
        readArguments options (← given.addSwitch name) rest
      else .error (if name = "help" then .help else .misuse)

/-- The options of a command, if there is one of that name. -/
def optionsOf? (command : String) : Option Options :=
  let common := ["manifest", "scenario"]
  match command with
  | "dsl" | "transcript" | "sql" => some ⟨common, []⟩
  | "scenario" => some ⟨common, ["include-static"]⟩
  | "compile" => some ⟨"out-dir" :: common, []⟩
  | "lint" => some ⟨common, ["deny-warnings"]⟩
  | _ => none

/-- The folder into which `compile` writes unless another one is named. -/
def defaultFolder : String := "build"

/-- The task of a command. -/
def taskOf? (command : String) (given : Given) : Option Task :=
  match command with
  | "dsl" => some .dsl
  | "transcript" => some .transcript
  | "scenario" => some (.scenario (given.has "include-static"))
  | "sql" => some .sql
  | "compile" => some (.compile ((given.value? "out-dir").getD defaultFolder))
  | "lint" => some (.lint (given.has "deny-warnings"))
  | _ => none

/-- The command that shows help, also on one other command. -/
def helpCommand : String := "help"

/-- What asking for help leads to: it is given on the program, or on one command. -/
def helpOn : List String → Stop
  | [] => .help
  | [command] =>
    if command = helpCommand ∨ (optionsOf? command).isSome then .help else .misuse
  | _ => .misuse

/-- Reads a command and its arguments, after the manifest that was named before it. -/
def readCommand (manifest : Option String) (command : String) (args : List String) :
    Except Stop Invocation := do
  let some options := optionsOf? command
    | .error (if command = helpCommand then helpOn args else .misuse)
  let given ← readArguments options {} args
  match given.operands, taskOf? command given with
  | [script], some task =>
    return {
      manifest := (given.value? "manifest").or manifest
      script
      scenario := given.value? "scenario"
      task }
  | _, _ => .error .misuse

/-- Reads a command line up to its command. -/
def readLine (given : Given) : List String → Except Stop Invocation
  | [] => .error .misuse
  | arg :: rest =>
    match Shape.of arg with
    | .separator => .error .misuse
    | .plain => readCommand (given.value? "manifest") arg rest
    | .short letter =>
      .error (if letter = 'V' then .version else if letter = 'h' then .help else .misuse)
    | .long name attached =>
      if name = "manifest" then
        match attached with
        | some value => do readLine (← given.addValue name value) rest
        | none =>
          match rest with
          | value :: rest =>
            if isPlain value then do readLine (← given.addValue name value) rest
            else .error .misuse
          | [] => .error .misuse
      else if attached.isSome then .error .misuse
      else .error (if name = "version" then .version else if name = "help" then .help else .misuse)

/-- What a command line asks for; nothing if it cannot be understood. -/
def Request.ofArguments? (args : List String) : Option Request :=
  match readLine {} args with
  | .ok invocation => some (.run invocation)
  | .error .version => some .version
  | .error .help => some .help
  | .error .misuse => none

end Storyline.CommandLine
