import DevfilePush.Naming.Allocator
import DevfilePush.Synthesis.Containers
import DevfilePush.Synthesis.Event
import DevfilePush.Synthesis.Supervisor

/-!
Init containers for the commands that run before the containers start.

Each is a copy of the container that its command belongs to, under a name of its own,
with the command as its program.
-/

namespace DevfilePush

/-- A command line, run in a directory. -/
def shellLine (commandLine : String) (workingDir : Option String) : String :=
  match workingDir with
  | some dir => if dir = "" then commandLine else "cd " ++ dir ++ " && " ++ commandLine
  | none => commandLine

/-- The program that has a shell run a line. -/
def shellProgram (shell line : String) : List String :=
  [shell, "-c", line]

namespace PreStart

/-- The init container `name` for an exec command, made from the command's container. -/
def initContainer (base : Kubernetes.Container) (name shell : String) (body : ExecBody) :
    Kubernetes.Container :=
  { base with
    name
    command := some (shellProgram shell (shellLine body.commandLine body.workingDir))
    args := some []
    ports := none
    env :=
      if body.env.isEmpty then base.env
      else some (base.envVars ++ body.env.map EnvVar.toKubernetes) }

/-- The full name of the init container for a command. -/
def fullName (component id : String) : String :=
  Text.lowercase (component ++ "-" ++ id)

/-- The init containers for `commands`, with names handed out in order. -/
def build (containers : List Kubernetes.Container) (shell : String) :
    Naming.Allocator → List Command → Except SynthesisError (List Kubernetes.Container)
  | _, [] => .ok []
  | names, command :: rest =>
    match command.body with
    | .composite _ => .error (.unsupportedEvent command.id)
    | .exec body =>
      match containers.find? fun container => container.name = body.component with
      | none => .error (.unknownComponent command.id body.component)
      | some base => do
        let (name, names) := names.allocate Naming.shortHash (fullName body.component command.id)
        return initContainer base name shell body :: (← build containers shell names rest)

/-- The names that no init container may take. -/
def reserved (containers : List Kubernetes.Container) : Naming.Allocator :=
  containers.foldl (fun names container => names.reserve container.name)
    (Naming.Allocator.empty.reserve Supervisor.bootstrapName)

end PreStart

/-- The init containers of the preStart event, in the order in which they run. -/
def Devfile.preStartContainers (devfile : Devfile) (containers : List Kubernetes.Container)
    (shell : String) : Except SynthesisError (List Kubernetes.Container) := do
  let commands ← devfile.expandEvent .preStart
  PreStart.build containers shell (PreStart.reserved containers) commands

end DevfilePush
