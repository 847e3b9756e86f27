import DevfilePush.Devfile.Basic
import DevfilePush.Duration

/-!
Failures: one type for each part of the work, and `Failure` for all of them.

Constructors say what went wrong; `message` gives the wording and `code` a fixed name for
programs. Command, synthesis and configuration failures are found before the cluster is
touched.
-/

namespace DevfilePush

/-- A command cannot be used as asked. -/
inductive CommandError where
  /-- A command was asked for by an id that the devfile does not have. -/
  | notFound (name : String)
  /-- A command was asked for in a group other than its own. -/
  | groupMismatch (id : String) (expected actual : GroupKind)
  /-- A mandatory group has no command. -/
  | groupNotFound (kind : GroupKind)
  /-- Several commands share a group and none is its default. -/
  | noDefault (kind : GroupKind)
  /-- Several commands share a group and more than one is its default. -/
  | multipleDefaults (kind : GroupKind)
  /-- The command's component is no container. -/
  | unknownComponent (id component : String)
  | emptyCommandLine (id : String)
  /-- A composite command is bound to the run group. -/
  | compositeRunKind (id : String)
  /-- A composite command contains itself. -/
  | compositeSelfReference (id : String)
  /-- A composite command names a command that does not exist. -/
  | compositeMissingSubcommand (id subId : String)
  /-- Several failures at once. -/
  | aggregate (messages : List String)
  deriving DecidableEq, Repr

def CommandError.message : CommandError → String
  | notFound name => s!"the command \"{name}\" is not found in the devfile"
  | groupMismatch id expected actual =>
    s!"command group mismatched, command {id} is of group {actual.name} in devfile.yaml, but " ++
      s!"{expected.name} was requested"
  | groupNotFound kind => s!"command group of kind {kind.name} not found in the devfile"
  | noDefault kind =>
    s!"there should be exactly one default command for command group {kind.name}, " ++
      "currently there is no default command"
  | multipleDefaults kind =>
    s!"there should be exactly one default command for command group {kind.name}, " ++
      "currently there is more than one default command"
  | unknownComponent id _ => s!"the command \"{id}\" does not map to a supported component"
  | emptyCommandLine id => s!"the command \"{id}\" has an empty command line"
  | compositeRunKind id =>
    "composite commands of run kind are not supported currently, " ++
      s!"command {id} is a composite of run kind"
  | compositeSelfReference id => s!"the composite command {id} cannot reference itself"
  | compositeMissingSubcommand id subId =>
    s!"the command {subId} mentioned in the composite command {id} does not exist in the devfile"
  | aggregate messages => "\n".intercalate messages

/-- The fixed name of the error. -/
def CommandError.code : CommandError → String
  | notFound _ => "Command.NotFound"
  | groupMismatch .. => "Command.GroupMismatch"
  | groupNotFound _ => "Command.GroupNotFound"
  | noDefault _ => "Command.NoDefault"
  | multipleDefaults _ => "Command.MultipleDefaults"
  | unknownComponent .. => "Command.UnknownComponent"
  | emptyCommandLine _ => "Command.EmptyCommandLine"
  | compositeRunKind _ => "Command.CompositeRunKind"
  | compositeSelfReference _ => "Command.CompositeSelfReference"
  | compositeMissingSubcommand .. => "Command.CompositeMissingSubcommand"
  | aggregate _ => "Command.Aggregate"

/-- The cluster objects of a devfile cannot be built. -/
inductive SynthesisError where
  /-- A command's component has no container. -/
  | unknownComponent (command component : String)
  /-- An event names no command. -/
  | unsupportedEvent (id : String)
  /-- A composite command of an event contains a composite command. -/
  | nestedComposite (id subId : String)
  /-- A container mounts a volume that does not exist. -/
  | unknownVolume (container volume : String)
  | invalidQuantity (field value : String)
  deriving DecidableEq, Repr

def SynthesisError.message : SynthesisError → String
  | unknownComponent command component =>
    s!"the command \"{command}\" targets component \"{component}\" which has no container"
  | unsupportedEvent id =>
    s!"the event command \"{id}\" is neither an exec nor a composite command"
  | nestedComposite id subId =>
    s!"the composite command \"{id}\" nests composite command \"{subId}\", " ++
      "which is not supported for lifecycle events"
  | unknownVolume container volume =>
    s!"the container \"{container}\" mounts unknown volume \"{volume}\""
  | invalidQuantity field value => s!"invalid quantity \"{value}\" for {field}"

/-- The fixed name of the error. -/
def SynthesisError.code : SynthesisError → String
  | unknownComponent .. => "Synthesis.UnknownComponent"
  | unsupportedEvent _ => "Synthesis.UnsupportedEvent"
  | nestedComposite .. => "Synthesis.NestedComposite"
  | unknownVolume .. => "Synthesis.UnknownVolume"
  | invalidQuantity .. => "Synthesis.InvalidQuantity"

/-- The cluster did not do what was asked of it. -/
inductive ClusterError where
  /-- The cluster refused a request, with an HTTP status code. -/
  | api (code : Nat) (message : String)
  /-- The cluster could not be reached or not be understood; the detail is there where it is
  known. -/
  | client (detail : Option String)
  /-- An object that has to exist does not. -/
  | notFound (kind name : String)
  /-- A failure that was asked for beforehand. -/
  | injected (message : String)
  /-- A watch failed; the detail is there where it is known. -/
  | watch (detail : Option String)
  /-- No pod was running in time. -/
  | readinessTimeout (selector : String) (timeout : Duration)
  | podFailed (name phase : String)
  /-- The component to be deleted has no pods. -/
  | componentNotFound (name : String)
  /-- A command in a container failed. -/
  | exec (container message : String)
  deriving DecidableEq, Repr

/-- A message with a detail behind it, if there is one. -/
def withDetail (message : String) : Option String → String
  | none => message
  | some detail => message ++ ": " ++ detail

namespace ClusterError

def message : ClusterError → String
  | api code message => s!"cluster API error ({code}): {message}"
  | client detail => withDetail "cluster client error" detail
  | notFound kind name => s!"{kind} \"{name}\" not found"
  | injected message => s!"injected failure: {message}"
  | watch detail => withDetail "pod watch failed" detail
  | readinessTimeout selector timeout =>
    s!"timed out after {timeout.text} waiting for a running pod matching {selector}"
  | podFailed name phase => s!"pod {name} entered phase {phase}"
  | componentNotFound name => s!"the component {name} doesn't exist on the cluster"
  | exec container message => s!"failed to execute command in container {container}: {message}"

/-- The fixed name of the error. -/
def code : ClusterError → String
  | api .. => "Cluster.Api"
  | client _ => "Cluster.Client"
  | notFound .. => "Cluster.NotFound"
  | injected _ => "Cluster.Injected"
  | watch _ => "Cluster.Watch"
  | readinessTimeout .. => "Cluster.ReadinessTimeout"
  | podFailed .. => "Cluster.PodFailed"
  | componentNotFound _ => "Cluster.ComponentNotFound"
  | exec .. => "Cluster.Exec"

/-- Whether the error says that an object does not exist. -/
def isNotFound : ClusterError → Bool
  | notFound .. => true
  | api code _ => code = 404
  | _ => false

/-- Whether the error says that somebody else has written the object. -/
def isConflict : ClusterError → Bool
  | api code _ => code = 409
  | _ => false

end ClusterError

/-- A devfile or the settings cannot be used. -/
inductive ConfigError where
  /-- A text is not what it should be; the detail is there where it is ours to give. -/
  | parsing (what : String) (detail : Option String)
  | validation (message : String)
  /-- A file cannot be read as text. -/
  | unreadable
  | notFound (path : String)
  deriving DecidableEq, Repr

def ConfigError.message : ConfigError → String
  | parsing what detail => withDetail s!"Failed to parse {what}" detail
  | validation message => s!"Configuration validation error: {message}"
  | unreadable => "Failed to read configuration file"
  | notFound path => s!"Configuration file not found: {path}"

/-- The fixed name of the error. -/
def ConfigError.code : ConfigError → String
  | parsing .. => "Config.Parsing"
  | validation _ => "Config.Validation"
  | unreadable => "Config.Io"
  | notFound _ => "Config.NotFound"

/-- Anything that can go wrong. -/
inductive Failure where
  | command (error : CommandError)
  | synthesis (error : SynthesisError)
  | cluster (error : ClusterError)
  | config (error : ConfigError)
  deriving DecidableEq, Repr

namespace Failure

def message : Failure → String
  | command error => "Command error: " ++ error.message
  | synthesis error => "Synthesis error: " ++ error.message
  | cluster error => "Cluster error: " ++ error.message
  | config error => "Configuration error: " ++ error.message

/-- The fixed name of the failure. -/
def code : Failure → String
  | command error => error.code
  | synthesis error => error.code
  | cluster error => error.code
  | config error => error.code

/-- The cluster error that the failure is, if it is one. -/
def cluster? : Failure → Option ClusterError
  | cluster error => some error
  | _ => none

/-- Whether the devfile itself is at fault. -/
def isDevfileFault : Failure → Bool
  | command _ => true
  | synthesis _ => true
  | _ => false

end Failure

end DevfilePush
