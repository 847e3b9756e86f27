import DevfilePush.Kubernetes.Metadata

/-!
Containers and volumes of a pod.
-/

namespace DevfilePush.Kubernetes

structure EnvVar where
  name : String
  value : Option String
  deriving DecidableEq, Repr

structure ContainerPort where
  containerPort : Int
  name : Option String := none
  protocol : Option String := none
  deriving DecidableEq, Repr

structure VolumeMount where
  name : String
  mountPath : String
  deriving DecidableEq, Repr

/-- Bounds on what a container or claim may use, by resource. -/
structure Resources where
  limits : Option TextMap := none
  requests : Option TextMap := none
  deriving DecidableEq, Repr

structure SecurityContext where
  privileged : Option Bool := none
  deriving DecidableEq, Repr

/-- A container of a pod. -/
structure Container where
  name : String
  image : Option String := none
  /-- The program, in place of the image's own. -/
  command : Option (List String) := none
  args : Option (List String) := none
  env : Option (List EnvVar) := none
  ports : Option (List ContainerPort) := none
  resources : Option Resources := none
  securityContext : Option SecurityContext := none
  volumeMounts : Option (List VolumeMount) := none
  deriving DecidableEq, Repr

/-- Where the contents of a volume come from. -/
inductive VolumeSource where
  /-- A directory that lives as long as the pod. -/
  | emptyDir
  /-- A claim, by name. -/
  | claim (name : String)
  deriving DecidableEq, Repr

structure Volume where
  name : String
  source : Option VolumeSource := none
  deriving DecidableEq, Repr

namespace Container

/-- The container's variables, none where it has no list of them. -/
def envVars (container : Container) : List EnvVar :=
  container.env.getD []

/-- The container's mounts, none where it has no list of them. -/
def mounts (container : Container) : List VolumeMount :=
  container.volumeMounts.getD []

/-- Whether the container has a variable called `name`. -/
def hasEnv (container : Container) (name : String) : Bool :=
  container.envVars.any fun var => var.name = name

/-- Adds a variable, unless there is one of that name. -/
def addEnvIfAbsent (container : Container) (name value : String) : Container :=
  if container.hasEnv name then container
  else { container with env := some (container.envVars ++ [⟨name, some value⟩]) }

/-- Adds a mount of the volume `name`. -/
def addMount (container : Container) (name mountPath : String) : Container :=
  { container with volumeMounts := some (container.mounts ++ [⟨name, mountPath⟩]) }

/-- Whether the container mounts the volume `name`. -/
def hasMount (container : Container) (name : String) : Bool :=
  container.mounts.any fun mount => mount.name = name

end Container

def EnvVar.toJson (var : EnvVar) : Json :=
  Json.ofFields [("name", some (.string var.name)), ("value", var.value.map .string)]

def ContainerPort.toJson (port : ContainerPort) : Json :=
  Json.ofFields
    [("containerPort", some (.integer port.containerPort)),
      ("name", port.name.map .string),
      ("protocol", port.protocol.map .string)]

def VolumeMount.toJson (mount : VolumeMount) : Json :=
  .object [("mountPath", .string mount.mountPath), ("name", .string mount.name)]

def Resources.toJson (resources : Resources) : Json :=
  Json.ofFields
    [("limits", resources.limits.map TextMap.toJson),
      ("requests", resources.requests.map TextMap.toJson)]

def SecurityContext.toJson (context : SecurityContext) : Json :=
  Json.ofFields [("privileged", context.privileged.map .bool)]

def Container.toJson (container : Container) : Json :=
  Json.ofFields
    [("args", container.args.map Json.ofStrings),
      ("command", container.command.map Json.ofStrings),
      ("env", container.env.map fun vars => .array (vars.map EnvVar.toJson)),
      ("image", container.image.map .string),
      ("name", some (.string container.name)),
      ("ports", container.ports.map fun ports => .array (ports.map ContainerPort.toJson)),
      ("resources", container.resources.map Resources.toJson),
      ("securityContext", container.securityContext.map SecurityContext.toJson),
      ("volumeMounts", container.volumeMounts.map fun mounts =>
        .array (mounts.map VolumeMount.toJson))]

def Volume.toJson (volume : Volume) : Json :=
  match volume.source with
  | none => .object [("name", .string volume.name)]
  | some .emptyDir => .object [("emptyDir", .object []), ("name", .string volume.name)]
  | some (.claim claim) =>
    .object
      [("name", .string volume.name),
        ("persistentVolumeClaim", .object [("claimName", .string claim)])]

end DevfilePush.Kubernetes
