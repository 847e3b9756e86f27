import DevfilePush.Cli.Option
import DevfilePush.Command.Selection
import DevfilePush.Settings.Load

/-!
The arguments of the program.

Some options concern every subcommand and may stand in front of it or behind it; what
stands behind it counts for more. The settings file may also be named by a variable.
-/

namespace DevfilePush.Cli

/-- How rendered objects are printed. -/
inductive OutputFormat where
  | json
  | yaml
  deriving DecidableEq, Repr

def OutputFormat.name : OutputFormat → String
  | json => "json"
  | yaml => "yaml"

/-- The component to render or to push. -/
structure ComponentChoice where
  name : Option String
  overrides : CommandOverrides
  debug : Bool
  debugPort : Option Int
  deriving DecidableEq, Repr

/-- What the program is to do. -/
inductive Task where
  | resolve (overrides : CommandOverrides) (debug test : Bool)
  | render (component : ComponentChoice) (format : OutputFormat)
  | push (component : ComponentChoice)
  | delete (name : Option String)
  deriving DecidableEq, Repr

/-- A call of the program. -/
structure Invocation where
  devfile : String
  settings : Option String
  /-- The namespace to work in, if not that of the settings. -/
  namespaceName : Option String
  task : Task
  deriving DecidableEq, Repr

/-! ### Options -/

def anyText (_ : String) : Bool := true

/-- A path is a text that is not empty. -/
def isPath (text : String) : Bool :=
  text ≠ ""

def isOneOf (choices : List String) (text : String) : Bool :=
  choices.contains text

/-- An option with a value of any kind. -/
def textOption (name : String) : OptionSpec :=
  { name, accepts := some anyText }

def flagOption (name : String) : OptionSpec :=
  { name }

/-- The port that a text gives. -/
def port? (text : String) : Option Int :=
  (Text.Integer.signed? text.toList).filter (Text.Integer.fitsSigned 32)

/-- The options that concern every subcommand. -/
def sharedOptions : List OptionSpec :=
  [{ name := "log-format", accepts := some (isOneOf ["text", "json"]) },
    { name := "log-level",
      accepts := some (isOneOf ["error", "warn", "info", "debug", "trace"]) },
    { name := "devfile", accepts := some isPath },
    { name := "settings", accepts := some isPath },
    { name := "namespace", letter := some 'n', accepts := some anyText }]

/-- The options that choose commands. -/
def commandOptions : List OptionSpec :=
  ["init-command", "build-command", "run-command", "debug-command", "test-command"].map textOption

/-- The options that describe a component. -/
def componentOptions : List OptionSpec :=
  textOption "name" :: commandOptions ++
    [flagOption "debug", { name := "debug-port", accepts := some fun text => (port? text).isSome }]

def resolveOptions : List OptionSpec :=
  commandOptions ++ [flagOption "debug", flagOption "test"]

def renderOptions : List OptionSpec :=
  componentOptions ++ [{ name := "output", accepts := some (isOneOf ["json", "yaml"]) }]

def pushOptions : List OptionSpec :=
  componentOptions ++ [flagOption "no-spinner"]

def deleteOptions : List OptionSpec :=
  [textOption "name"]

/-! ### Tasks -/

def overridesOf (given : List GivenOption) : CommandOverrides where
  init := valueOf given "init-command"
  build := valueOf given "build-command"
  run := valueOf given "run-command"
  debug := valueOf given "debug-command"
  test := valueOf given "test-command"

def componentOf (given : List GivenOption) : ComponentChoice where
  name := valueOf given "name"
  overrides := overridesOf given
  debug := isGiven given "debug"
  debugPort := (valueOf given "debug-port").bind port?

def formatOf (given : List GivenOption) : OutputFormat :=
  if valueOf given "output" = some OutputFormat.yaml.name then .yaml else .json

/-- A subcommand: its options, and the task that they describe. -/
structure Subcommand where
  name : String
  options : List OptionSpec
  task : List GivenOption → Task

/-- The subcommands. -/
def subcommands : List Subcommand :=
  [⟨"resolve", resolveOptions, fun given =>
      .resolve (overridesOf given) (isGiven given "debug") (isGiven given "test")⟩,
    ⟨"render", renderOptions, fun given => .render (componentOf given) (formatOf given)⟩,
    ⟨"push", pushOptions, fun given => .push (componentOf given)⟩,
    ⟨"delete", deleteOptions, fun given => .delete (valueOf given "name")⟩]

def subcommand? (name : String) : Option Subcommand :=
  subcommands.find? fun subcommand => subcommand.name = name

/-! ### Reading -/

/-- What the arguments ask for. -/
inductive Request where
  | run (invocation : Invocation)
  | stop (reason : Stop)
  /-- Nothing was asked for at all. -/
  | nothing
  deriving DecidableEq, Repr

/-- The variable that names the settings file. -/
def settingsVar : String := "DEVPUSH_SETTINGS"

/-- The devfile where none is named. -/
def defaultDevfile : String := "devfile.yaml"

/-- The names that ask for help on a subcommand. -/
def isHelpTopic (name : String) : Bool :=
  name = "help" || (subcommand? name).isSome

/-- What asking for help on `topics` leads to. -/
def helpOn : List String → Stop
  | [] => .help
  | [topic] => if isHelpTopic topic then .help else .usage
  | _ => .usage

/-- The call that options in front of the subcommand (`outer`) and behind it (`inner`)
describe. A variable has to name a file wherever the option is not given. -/
def invocation (environment : Environment) (subcommand : Subcommand)
    (outer inner : List GivenOption) : Except Stop Invocation := do
  let settingsFile := environment.lookup settingsVar
  if settingsFile = some "" && !(isGiven outer "settings" && isGiven inner "settings") then
    throw .usage
  let shared := fun name => (valueOf inner name).or (valueOf outer name)
  return {
    devfile := (shared "devfile").getD defaultDevfile
    settings := (shared "settings").or settingsFile
    namespaceName := shared "namespace"
    task := subcommand.task inner }

/-- Reads the arguments behind the name of a subcommand. -/
def readSubcommand (environment : Environment) (outer : List GivenOption) (name : String)
    (args : List String) : Except Stop Invocation := do
  if name = "help" then throw (helpOn args)
  match subcommand? name with
  | none => throw .usage
  | some subcommand =>
    let inner ← OptionSet.read ⟨sharedOptions ++ subcommand.options, false⟩ [] args
    if !inner.rest.isEmpty then throw .usage
    invocation environment subcommand outer inner.given

/-- What the arguments ask for. -/
def Request.ofArguments (environment : Environment) (args : List String) : Request :=
  match OptionSet.read ⟨sharedOptions, true⟩ [] args with
  | .error reason => .stop reason
  | .ok ⟨outer, []⟩ =>
    if outer.isEmpty && (environment.lookup settingsVar).isNone then .nothing else .stop .usage
  | .ok ⟨outer, name :: rest⟩ =>
    match readSubcommand environment outer name rest with
    | .error reason => .stop reason
    | .ok invocation => .run invocation

end DevfilePush.Cli
