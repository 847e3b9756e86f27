import DevfilePush.Devfile.Basic
import DevfilePush.Failure
import DevfilePush.Naming.Label
import DevfilePush.Synthesis.Quantity

/-!
The containers of a pod, one for each container component.

Unless a component opts out, the project sources are mounted into its container and
announced by two variables, which the component's own variables of those names override.
-/

namespace DevfilePush

/-- The volume that holds the project sources. -/
def projectsVolume : String := "odo-projects"

/-- Where sources are mounted if the component does not say. -/
def defaultSourceMapping : String := "/projects"

/-- The variable that holds the place of all sources. -/
def projectsRootVar : String := "PROJECTS_ROOT"

/-- The variable that holds the place of the first project's sources. -/
def projectSourceVar : String := "PROJECT_SOURCE"

/-- The greatest length of a port's name. -/
def maxPortNameLength : Nat := 15

/-- The list, if it has items. -/
def nonEmpty? {α : Type} (items : List α) : Option (List α) :=
  if items.isEmpty then none else some items

/-- A variable of a component as a variable of a container. -/
def EnvVar.toKubernetes (var : EnvVar) : Kubernetes.EnvVar :=
  ⟨var.name, some var.value⟩

/-- The port of a container for an endpoint. -/
def Endpoint.containerPort (endpoint : Endpoint) : Kubernetes.ContainerPort :=
  { containerPort := endpoint.targetPort
    name := some (Naming.truncate endpoint.name maxPortNameLength)
    protocol := some endpoint.protocol.transport }

namespace ContainerBody

/-- Where the sources are mounted. -/
def sourceMount (body : ContainerBody) : String :=
  match body.sourceMapping with
  | some path => if path = "" then defaultSourceMapping else path
  | none => defaultSourceMapping

/-- The container before anything is mounted. -/
def base (body : ContainerBody) (name : String) : Kubernetes.Container :=
  { name
    image := some body.image
    command := nonEmpty? body.command
    args := nonEmpty? body.args
    env := nonEmpty? (body.env.map EnvVar.toKubernetes)
    ports := nonEmpty? (body.endpoints.map Endpoint.containerPort)
    resources := some (Quantity.memoryResources body.memoryLimit)
    securityContext := some { privileged := some false } }

end ContainerBody

namespace Devfile

/-- The place of the first project's sources, under the mount of all of them. -/
def projectSource (devfile : Devfile) (mount : String) : String :=
  match devfile.projects.head? with
  | some project => mount ++ "/" ++ project.sourceDir
  | none => mount

/-- Mounts the sources, if the component wants them. -/
def withSources (devfile : Devfile) (body : ContainerBody) (container : Kubernetes.Container) :
    Kubernetes.Container :=
  if body.mountsSources then
    ((container.addMount projectsVolume body.sourceMount).addEnvIfAbsent projectsRootVar
      body.sourceMount).addEnvIfAbsent projectSourceVar (devfile.projectSource body.sourceMount)
  else container

/-- Whether the devfile has a volume component called `name`. -/
def hasVolume (devfile : Devfile) (name : String) : Bool :=
  devfile.volumes.any fun volume => volume.1 = name

/-- Mounts the volumes that a component uses. -/
def withVolumes (devfile : Devfile) (container : Kubernetes.Container) :
    List VolumeMountRef → Except SynthesisError Kubernetes.Container
  | [] => .ok container
  | mount :: rest =>
    if devfile.hasVolume mount.name then
      devfile.withVolumes (container.addMount mount.name (mount.path.getD ("/" ++ mount.name))) rest
    else .error (.unknownVolume container.name mount.name)

/-- The container for a container component. -/
def containerFor (devfile : Devfile) (name : String) (body : ContainerBody) :
    Except SynthesisError Kubernetes.Container :=
  devfile.withVolumes (devfile.withSources body (body.base name)) body.volumeMounts

/-- The containers for all container components, in order of declaration. -/
def synthesizeContainers (devfile : Devfile) : Except SynthesisError (List Kubernetes.Container) :=
  devfile.containers.mapM fun component => devfile.containerFor component.1 component.2

end Devfile

end DevfilePush
