import DevfilePush.Command.Selection
import DevfilePush.Kubernetes.Object

/-!
The supervisor, which starts and stops the program under development.

The containers of the run and debug commands get the supervisor as their program and
the command lines as variables, so the program can be restarted while the pod lives. An
init container brings the supervisor along in a volume that those containers share.
-/

namespace DevfilePush

namespace Supervisor

/-- The supervisor's own program. -/
def binary : String := "/opt/odo/bin/supervisord"

def configFile : String := "/opt/odo/conf/devfile-supervisor.conf"

/-- The volume that holds the supervisor. -/
def volumeName : String := "odo-supervisord-shared-data"

def mountPath : String := "/opt/odo/"

/-- The init container that fills the volume. -/
def bootstrapName : String := "copy-supervisord"

def debugPortVar : String := "ODO_DEBUG_PORT"

/-- A program that the supervisor looks after. -/
inductive Program where
  | run
  | debug
  deriving DecidableEq, Repr

namespace Program

/-- The name of the protocol between push and its user. -/
def name : Program → String
  | run => "run"
  | debug => "debug"

/-- The name that the supervisor knows the program by. -/
def unit : Program → String
  | run => "devrun"
  | debug => "debugrun"

/-- The variable that holds the program's command line. -/
def commandVar : Program → String
  | run => "ODO_COMMAND_RUN"
  | debug => "ODO_COMMAND_DEBUG"

/-- The variable that holds the program's working directory. -/
def workingDirVar : Program → String
  | run => "ODO_COMMAND_RUN_WORKING_DIR"
  | debug => "ODO_COMMAND_DEBUG_WORKING_DIR"

end Program

/-- The command that starts a program. -/
def startCommand (program : Program) : List String :=
  [binary, "ctl", "start", program.unit]

/-- The command that stops every program. -/
def stopAllCommand : List String :=
  [binary, "ctl", "stop", "all"]

/-- The volume shared by the init container and the containers. -/
def volume : Kubernetes.Volume :=
  { name := volumeName, source := some .emptyDir }

/-- The init container that copies the supervisor out of `image`. -/
def bootstrapContainer (image : String) : Kubernetes.Container :=
  { name := bootstrapName
    image := some image
    command := some ["/usr/bin/cp"]
    args := some ["-r", "/opt/odo-init/.", mountPath]
    volumeMounts := some [⟨volumeName, mountPath⟩] }

end Supervisor

/-- The command line, with the command's variables exported in front of it. Their
values stand between quotes as they are. -/
def ExecBody.lineWithEnv (body : ExecBody) : String :=
  if body.env.isEmpty then body.commandLine
  else
    let exports := body.env.map fun var => var.name ++ "=\"" ++ var.value ++ "\""
    "export " ++ " ".intercalate exports ++ " && " ++ body.commandLine

namespace Kubernetes.Container

/-- Whether the supervisor is the container's program. -/
def isWrapped (container : Container) : Bool :=
  container.command = some [Supervisor.binary]

/-- The container with the supervisor as its program. -/
def wrapped (container : Container) : Container :=
  let container :=
    { container with
      command := some [Supervisor.binary]
      args := some ["-c", Supervisor.configFile] }
  if container.hasMount Supervisor.volumeName then container
  else container.addMount Supervisor.volumeName Supervisor.mountPath

/-- The container with the supervisor, ready to run `program`. -/
def hosting (container : Container) (program : Supervisor.Program) (body : ExecBody) : Container :=
  let container := container.wrapped.addEnvIfAbsent program.commandVar body.lineWithEnv
  match body.workingDir with
  | some dir => if dir = "" then container else container.addEnvIfAbsent program.workingDirVar dir
  | none => container

end Kubernetes.Container

namespace Supervisor

/-- Changes the first container called `name`; nothing if there is none. -/
def modifyNamed? (name : String) (change : Kubernetes.Container → Kubernetes.Container) :
    List Kubernetes.Container → Option (List Kubernetes.Container)
  | [] => none
  | container :: rest =>
    if container.name = name then some (change container :: rest)
    else (modifyNamed? name change rest).map (container :: ·)

/-- Prepares the container of `command` with `change`. A composite command has no
container and is passed over. -/
def prepare (containers : List Kubernetes.Container) (command : Command)
    (change : ExecBody → Kubernetes.Container → Kubernetes.Container) :
    Except SynthesisError (List Kubernetes.Container) :=
  match command.body with
  | .composite _ => .ok containers
  | .exec body =>
    match modifyNamed? body.component (change body) containers with
    | some containers => .ok containers
    | none => .error (.unknownComponent command.id body.component)

/-- The container of the debug command: the supervisor with the program and its port. -/
def hostDebug (port : Int) (body : ExecBody) (container : Kubernetes.Container) :
    Kubernetes.Container :=
  (container.hosting .debug body).addEnvIfAbsent debugPortVar (toString port)

end Supervisor

/-- The containers, with the supervisor in those of the run and debug commands. Without
a run command nothing changes. -/
def Devfile.wrapContainers (devfile : Devfile) (overrides : CommandOverrides) (debugPort : Int)
    (containers : List Kubernetes.Container) : Except Failure (List Kubernetes.Container) := do
  let run ← (devfile.findCommand .run overrides.run).mapError Failure.command
  let debug ← (devfile.findCommand .debug overrides.debug).mapError Failure.command
  match run with
  | none => return containers
  | some run =>
    let containers ← (Supervisor.prepare containers run fun body container =>
      container.hosting .run body).mapError Failure.synthesis
    match debug with
    | none => return containers
    | some debug =>
      (Supervisor.prepare containers debug (Supervisor.hostDebug debugPort)).mapError
        Failure.synthesis

end DevfilePush
