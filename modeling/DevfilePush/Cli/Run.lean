import DevfilePush.Cli.Arguments
import DevfilePush.Devfile.Reader
import DevfilePush.Json.Writer
import DevfilePush.Synthesis.Desired
import DevfilePush.Version
import DevfilePush.Yaml.Writer

/-!
What the program does when it is called, as a function of its arguments, its environment
and the files that it finds.

Subcommands that work on a cluster check everything that can be checked without it. No
connection to a cluster is available here, so that is as far as they get.
-/

namespace DevfilePush.Cli

/-- What the program has to say besides its output. -/
inductive Complaint where
  /-- How the program is to be called. -/
  | usage
  /-- The program was called without anything to do. -/
  | nothingToDo
  | failed (failure : Failure)
  deriving DecidableEq, Repr

/-- What a call of the program leads to. -/
structure Outcome where
  stdout : String
  complaint : Option Complaint
  deriving DecidableEq, Repr

/-- The exit code of a call: 2 for a wrong call or devfile, 1 for other failures. -/
def Complaint.exitCode : Complaint → Nat
  | usage => 2
  | nothingToDo => 2
  | failed failure => if failure.isDevfileFault then 2 else 1

def Outcome.exitCode (outcome : Outcome) : Nat :=
  (outcome.complaint.map Complaint.exitCode).getD 0

/-- What the call of the program prints when it succeeds. -/
def Outcome.success (stdout : String) : Outcome :=
  ⟨stdout, none⟩

def usageText : String :=
  "Usage: devpush [OPTIONS] <resolve|render|push|delete>\n"

/-- No cluster can be reached. -/
def noConnection : Failure :=
  .cluster (.client none)

section

variable (find : String → FileContent) (environment : Environment)

/-- The devfile at a path. -/
def readDevfile (path : String) : Except ConfigError Devfile := do
  Devfile.ofText (← (find path).textAt path)

/-- The settings of a call. -/
def readSettings (invocation : Invocation) : Except ConfigError PushSettings := do
  let settings ← PushSettings.load (invocation.settings.map fun path => (path, find path))
    environment
  match invocation.namespaceName with
  | none => return settings
  | some namespaceName =>
    let settings := { settings with namespaceName }
    settings.validate
    return settings

/-- The devfile and the settings of a call. -/
def load (invocation : Invocation) : Except ConfigError (Devfile × PushSettings) := do
  let devfile ← readDevfile find invocation.devfile
  let settings ← readSettings find environment invocation
  return (devfile, settings)

/-- The parameters of a push. -/
def ComponentChoice.parameters (component : ComponentChoice) (settings : PushSettings) :
    PushParameters :=
  ⟨component.name, component.overrides, component.debug, component.debugPort, settings⟩

/-- The desired state that a call describes. -/
def renderComponent (invocation : Invocation) (component : ComponentChoice) :
    Except Failure DesiredComponent := do
  let (devfile, settings) ← (load find environment invocation).mapError Failure.config
  render devfile (component.parameters settings)

/-- The text of manifests. -/
def OutputFormat.write (format : OutputFormat) (manifests : List Json) : String :=
  match format with
  | json => (Json.array manifests).pretty ++ "\n"
  | yaml => Yaml.writeAll manifests

/-- The name of the component to delete. -/
def targetName (invocation : Invocation) : Option String → Except ConfigError String
  | some name => .ok (Naming.normalize name)
  | none => do return Naming.normalize (← readDevfile find invocation.devfile).componentName

/-- What a call prints. -/
def perform (invocation : Invocation) : Except Failure String := do
  match invocation.task with
  | .resolve overrides debug test =>
    let devfile ← (readDevfile find invocation.devfile).mapError Failure.config
    let resolution ← (devfile.resolution overrides debug test).mapError Failure.command
    return resolution.toJson.pretty ++ "\n"
  | .render component format =>
    let desired ← renderComponent find environment invocation component
    return format.write desired.manifests
  | .push component =>
    let _ ← renderComponent find environment invocation component
    throw noConnection
  | .delete name =>
    let _ ← (targetName find invocation name).mapError Failure.config
    let _ ← (readSettings find environment invocation).mapError Failure.config
    throw noConnection

/-- What a call of the program leads to. -/
def run (args : List String) : Outcome :=
  match Request.ofArguments environment args with
  | .nothing => ⟨"", some .nothingToDo⟩
  | .stop .usage => ⟨"", some .usage⟩
  | .stop .help => .success usageText
  | .stop .version => .success ("devpush " ++ version ++ "\n")
  | .run invocation =>
    match perform find environment invocation with
    | .ok stdout => .success stdout
    | .error failure => ⟨"", some (.failed failure)⟩

end

end DevfilePush.Cli
