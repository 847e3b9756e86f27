import DevfilePush.Text.Lowercase

/-!
The devfile: components, commands, projects and lifecycle events.

A command runs either one line in a container or a list of other commands, and a
component is either a container or a volume; the types leave no other case. Nothing
here is changed by a push: whoever needs a command in another group takes a copy.
-/

namespace DevfilePush

/-! ### Groups -/

/-- The lifecycle phase that a command serves. -/
inductive GroupKind where
  | init
  | build
  | run
  | debug
  | test
  deriving DecidableEq, Repr

namespace GroupKind

/-- The name used in devfiles and messages. -/
def name : GroupKind → String
  | init => "init"
  | build => "build"
  | run => "run"
  | debug => "debug"
  | test => "test"

/-- The group with the given name. -/
def ofName? (name : String) : Option GroupKind :=
  [init, build, run, debug, test].find? fun kind => kind.name = name

/-- The group with the given name in any letter case. -/
def ofText? (text : String) : Option GroupKind :=
  ofName? (Text.lowercase text)

/-- What to tell whoever asks for a group that there is not. -/
def unknownMessage (text : String) : String :=
  s!"Unknown command group '{text}'. Valid groups: init, build, run, debug, test"

/-- Whether a devfile has to have a command of the group. -/
def isMandatory : GroupKind → Bool
  | run => true
  | test => true
  | _ => false

theorem ofName?_name (kind : GroupKind) : ofName? kind.name = some kind := by
  cases kind <;> rfl

end GroupKind

/-- The group that a command is bound to. -/
structure CommandGroup where
  kind : GroupKind
  isDefault : Bool := false
  deriving DecidableEq, Repr

/-! ### Commands -/

/-- An environment variable. -/
structure EnvVar where
  name : String
  value : String := ""
  deriving DecidableEq, Repr

/-- One line, run by a shell in a container. -/
structure ExecBody where
  /-- The name of the container component. -/
  component : String := ""
  commandLine : String := ""
  workingDir : Option String := none
  env : List EnvVar := []
  group : Option CommandGroup := none
  deriving DecidableEq, Repr

/-- Other commands, run one after another. -/
structure CompositeBody where
  /-- The ids of the commands. -/
  commands : List String := []
  group : Option CommandGroup := none
  parallel : Bool := false
  deriving DecidableEq, Repr

/-- What a command does. -/
inductive CommandBody where
  | exec (body : ExecBody)
  | composite (body : CompositeBody)
  deriving DecidableEq, Repr

/-- A named command. -/
structure Command where
  id : String
  body : CommandBody
  deriving DecidableEq, Repr

namespace Command

/-- A command that runs `commandLine` in the container `component`. -/
def ofLine (id component commandLine : String) : Command :=
  ⟨id, .exec { component, commandLine }⟩

/-- A command made of other commands. -/
def ofCommands (id : String) (commands : List String) : Command :=
  ⟨id, .composite { commands }⟩

def group (command : Command) : Option CommandGroup :=
  match command.body with
  | .exec body => body.group
  | .composite body => body.group

def groupKind (command : Command) : Option GroupKind :=
  command.group.map (·.kind)

def isDefault (command : Command) : Bool :=
  (command.group.map (·.isDefault)).getD false

/-- The same command, bound to `group`. -/
def withGroup (command : Command) (group : CommandGroup) : Command :=
  match command.body with
  | .exec body => { command with body := .exec { body with group := some group } }
  | .composite body => { command with body := .composite { body with group := some group } }

/-- The same command in another working directory; a composite command has none. -/
def withWorkingDir (command : Command) (dir : String) : Command :=
  match command.body with
  | .exec body => { command with body := .exec { body with workingDir := some dir } }
  | .composite _ => command

/-- The same command with a further environment variable; a composite command has
none. -/
def withEnv (command : Command) (var : EnvVar) : Command :=
  match command.body with
  | .exec body => { command with body := .exec { body with env := body.env ++ [var] } }
  | .composite _ => command

def exec? (command : Command) : Option ExecBody :=
  match command.body with
  | .exec body => some body
  | .composite _ => none

def composite? (command : Command) : Option CompositeBody :=
  match command.body with
  | .exec _ => none
  | .composite body => some body

/-- The id in the form in which commands refer to each other. -/
def key (command : Command) : String :=
  Text.lowercase command.id

end Command

/-! ### Components -/

/-- How far an endpoint can be reached from. -/
inductive Exposure where
  | everywhere
  | internal
  | hidden
  deriving DecidableEq, Repr

namespace Exposure

def name : Exposure → String
  | everywhere => "public"
  | internal => "internal"
  | hidden => "none"

def ofName? (name : String) : Option Exposure :=
  [everywhere, internal, hidden].find? fun exposure => exposure.name = name

/-- The more open exposure has the higher rank. -/
def rank : Exposure → Nat
  | everywhere => 2
  | internal => 1
  | hidden => 0

end Exposure

/-- The protocol that an endpoint speaks. -/
inductive EndpointProtocol where
  | http
  | https
  | ws
  | wss
  | tcp
  | udp
  deriving DecidableEq, Repr

namespace EndpointProtocol

def name : EndpointProtocol → String
  | http => "http"
  | https => "https"
  | ws => "ws"
  | wss => "wss"
  | tcp => "tcp"
  | udp => "udp"

def ofName? (name : String) : Option EndpointProtocol :=
  [http, https, ws, wss, tcp, udp].find? fun protocol => protocol.name = name

/-- The transport that carries the protocol. -/
def transport : EndpointProtocol → String
  | udp => "UDP"
  | _ => "TCP"

end EndpointProtocol

/-- A port of a container. -/
structure Endpoint where
  name : String
  targetPort : Int
  exposure : Exposure := .everywhere
  protocol : EndpointProtocol := .http
  secure : Bool := false
  path : Option String := none
  deriving DecidableEq, Repr

/-- A volume component used by a container. -/
structure VolumeMountRef where
  name : String
  path : Option String := none
  deriving DecidableEq, Repr

/-- A container component. -/
structure ContainerBody where
  image : String
  command : List String := []
  args : List String := []
  env : List EnvVar := []
  endpoints : List Endpoint := []
  memoryLimit : Option String := none
  mountSources : Option Bool := none
  sourceMapping : Option String := none
  volumeMounts : List VolumeMountRef := []
  deriving DecidableEq, Repr

/-- Sources are mounted unless that is switched off. -/
def ContainerBody.mountsSources (body : ContainerBody) : Bool :=
  body.mountSources.getD true

/-- A volume component. -/
structure VolumeBody where
  size : Option String := none
  deriving DecidableEq, Repr

/-- What a component is. -/
inductive ComponentBody where
  | container (body : ContainerBody)
  | volume (body : VolumeBody)
  deriving DecidableEq, Repr

/-- A named component. -/
structure Component where
  name : String
  body : ComponentBody
  deriving DecidableEq, Repr

namespace Component

/-- The name and body of a container component. -/
def container? (component : Component) : Option (String × ContainerBody) :=
  match component.body with
  | .container body => some (component.name, body)
  | .volume _ => none

/-- The name and body of a volume component. -/
def volume? (component : Component) : Option (String × VolumeBody) :=
  match component.body with
  | .container _ => none
  | .volume body => some (component.name, body)

end Component

/-! ### The devfile -/

/-- A project whose sources are kept in the component. -/
structure Project where
  name : String
  clonePath : Option String := none
  deriving DecidableEq, Repr

/-- The directory of the project: its clone path, or its name where there is none. -/
def Project.sourceDir (project : Project) : String :=
  match project.clonePath with
  | some path => if path = "" then project.name else path
  | none => project.name

/-- The command ids bound to the lifecycle events. -/
structure Events where
  preStart : List String := []
  postStart : List String := []
  deriving DecidableEq, Repr

structure Metadata where
  name : Option String := none
  deriving DecidableEq, Repr

/-- A devfile. -/
structure Devfile where
  schemaVersion : Option String := none
  metadata : Metadata := {}
  projects : List Project := []
  components : List Component := []
  commands : List Command := []
  events : Events := {}
  deriving DecidableEq, Repr

namespace Devfile

/-- The container components, in order of declaration. -/
def containers (devfile : Devfile) : List (String × ContainerBody) :=
  devfile.components.filterMap Component.container?

/-- The volume components, in order of declaration. -/
def volumes (devfile : Devfile) : List (String × VolumeBody) :=
  devfile.components.filterMap Component.volume?

/-- The first container component with exactly the given name. -/
def container? (devfile : Devfile) (name : String) : Option ContainerBody :=
  (devfile.containers.find? fun container => container.1 = name).map (·.2)

/-- The first command with exactly the given id. -/
def command? (devfile : Devfile) (id : String) : Option Command :=
  devfile.commands.find? fun command => command.id = id

/-- The command that others refer to by `key`: of several, the last one declared. -/
def commandByKey? (devfile : Devfile) (key : String) : Option Command :=
  devfile.commands.reverse.find? fun command => command.key = key

/-- The commands of a group, in order of declaration. -/
def commandsOf (devfile : Devfile) (kind : GroupKind) : List Command :=
  devfile.commands.filter fun command => command.groupKind = some kind

/-- The name of the component, before it is fitted to a cluster object. -/
def componentName (devfile : Devfile) : String :=
  devfile.metadata.name.getD "component"

end Devfile

end DevfilePush
