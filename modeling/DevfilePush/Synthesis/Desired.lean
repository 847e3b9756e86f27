import DevfilePush.Command.PushSet
import DevfilePush.Settings.Basic
import DevfilePush.Synthesis.Claims
import DevfilePush.Synthesis.Identity
import DevfilePush.Synthesis.Ports
import DevfilePush.Synthesis.PreStart

/-!
The desired state of a component: everything that a push writes to the cluster.

`render` computes it from the devfile alone, so whatever is wrong with a devfile shows
before the cluster is touched.
-/

namespace DevfilePush

open Kubernetes (Container Deployment Service Claim Volume)

/-- What a push is asked for besides the devfile. -/
structure PushParameters where
  /-- The component's name, if not the devfile's. -/
  componentName : Option String := none
  overrides : CommandOverrides := {}
  /-- Start the debug command in place of the run command. -/
  debug : Bool := false
  /-- The port of the debugger, if not the settings'. -/
  debugPort : Option Int := none
  settings : PushSettings := {}
  deriving DecidableEq, Repr

/-- The port of the debugger. -/
def PushParameters.effectiveDebugPort (params : PushParameters) : Int :=
  params.debugPort.getD params.settings.debugPort

/-- The state that the cluster is to be brought into. -/
structure DesiredComponent where
  name : String
  labels : Labels
  /-- The commands that a push runs. -/
  commands : CommandMap
  deployment : Deployment
  service : Option Service
  claims : List Claim
  deriving DecidableEq

namespace DesiredComponent

/-- The selector for the component's objects. -/
def selector (desired : DesiredComponent) : String :=
  labelSelector desired.labels

/-- The containers of the pod. -/
def containers (desired : DesiredComponent) : List Container :=
  (desired.deployment.podSpec?.map (·.containers)).getD []

/-- The init containers of the pod, in the order in which they run. -/
def initContainers (desired : DesiredComponent) : List Container :=
  (desired.deployment.podSpec?.bind (·.initContainers)).getD []

/-- The objects, in the order in which they are created. -/
def manifests (desired : DesiredComponent) : List Json :=
  desired.claims.map Claim.toJson ++ [desired.deployment.toJson] ++
    desired.service.toList.map Service.toJson

end DesiredComponent

/-- The name of the component's objects. -/
def componentName (devfile : Devfile) (params : PushParameters) : String :=
  Naming.normalize (params.componentName.getD devfile.componentName)

/-- A Deployment of a single pod, whose old pod goes before a new one comes. -/
def buildDeployment (name : String) (labels : Labels) (containers initContainers : List Container)
    (volumes : List Volume) : Deployment :=
  { metadata := .named name labels
    spec := some
      { replicas := some 1
        matchLabels := some labels
        strategy := some (some "Recreate")
        template :=
          { metadata := some (.named name labels)
            spec := some
              { containers
                initContainers := nonEmpty? initContainers
                volumes := nonEmpty? volumes } } } }

/-- The volumes of a pod with the given containers. -/
def Devfile.podVolumes (devfile : Devfile) (name : String) (containers : List Container) :
    List Volume :=
  (if containers.any Container.isWrapped then [Supervisor.volume] else []) ++
    (if containers.any (·.hasMount projectsVolume) then
      [{ name := projectsVolume, source := some .emptyDir }] else []) ++
    devfile.volumes.map fun volume =>
      { name := volume.1, source := some (.claim (Naming.claimName name volume.1)) }

/-- Checks that there is a debug command, if it is to be started. -/
def Devfile.requireDebug (devfile : Devfile) (params : PushParameters) :
    Except CommandError Unit := do
  if params.debug then
    match ← devfile.resolveCommand .debug params.overrides.debug with
    | some _ => return ()
    | none => throw (.groupNotFound .debug)

/-- The desired state of a component. -/
def render (devfile : Devfile) (params : PushParameters) : Except Failure DesiredComponent := do
  let name := componentName devfile params
  let labels := componentLabels name
  let commands ← (devfile.resolvePushSet params.overrides).mapError Failure.command
  (devfile.requireDebug params).mapError Failure.command
  let containers ← devfile.synthesizeContainers.mapError Failure.synthesis
  let containers ← devfile.wrapContainers params.overrides params.effectiveDebugPort containers
  let preStart ←
    (devfile.preStartContainers containers params.settings.shell).mapError Failure.synthesis
  let bootstrap :=
    if containers.any Container.isWrapped then
      [Supervisor.bootstrapContainer params.settings.bootstrapImage] else []
  let volumes := devfile.podVolumes name containers
  let claims ← (devfile.synthesizeClaims name labels).mapError Failure.synthesis
  return {
    name
    labels
    commands
    deployment := buildDeployment name labels containers (bootstrap ++ preStart) volumes
    service := devfile.synthesizeService name labels
    claims }

end DevfilePush
