import DevfilePush.Kubernetes.Container

/-!
The cluster objects of a component: Deployment, Service, volume claim and pod.
-/

namespace DevfilePush.Kubernetes

/-! ### Deployments -/

structure PodSpec where
  containers : List Container
  initContainers : Option (List Container) := none
  volumes : Option (List Volume) := none
  deriving DecidableEq, Repr

/-- What the pods of a Deployment look like. -/
structure PodTemplate where
  metadata : Option Metadata := none
  spec : Option PodSpec := none
  deriving DecidableEq, Repr

structure DeploymentSpec where
  replicas : Option Int := none
  /-- The labels by which the Deployment knows its pods. -/
  matchLabels : Option Labels := none
  /-- The kind of strategy, if there is a strategy. -/
  strategy : Option (Option String) := none
  template : PodTemplate := {}
  deriving DecidableEq, Repr

structure Deployment where
  metadata : Metadata := {}
  spec : Option DeploymentSpec := none
  deriving DecidableEq, Repr

namespace Deployment

/-- The pod specification of the template. -/
def podSpec? (deployment : Deployment) : Option PodSpec :=
  deployment.spec.bind (·.template.spec)

/-- The labels of the template. -/
def templateLabels (deployment : Deployment) : Labels :=
  ((deployment.spec.bind (·.template.metadata)).bind (·.labels)).getD .empty

/-- The Deployment as it is to be written over the given version. -/
def withVersion (deployment : Deployment) (version : Option String) : Deployment :=
  { deployment with metadata := { deployment.metadata with resourceVersion := version } }

end Deployment

/-! ### Services -/

/-- A port of a container, by number or by name. -/
inductive PortRef where
  | number (port : Int)
  | name (port : String)
  deriving DecidableEq, Repr

structure ServicePort where
  port : Int
  name : Option String := none
  protocol : Option String := none
  targetPort : Option PortRef := none
  deriving DecidableEq, Repr

structure ServiceSpec where
  clusterIP : Option String := none
  clusterIPs : Option (List String) := none
  ports : Option (List ServicePort) := none
  selector : Option Labels := none
  deriving DecidableEq, Repr

structure Service where
  metadata : Metadata := {}
  spec : Option ServiceSpec := none
  deriving DecidableEq, Repr

namespace Service

/-- The address assigned to the Service. -/
def clusterIP? (service : Service) : Option String :=
  service.spec.bind (·.clusterIP)

/-- The Service as it is to be written over the given version. -/
def withVersion (service : Service) (version : Option String) : Service :=
  { service with metadata := { service.metadata with resourceVersion := version } }

end Service

/-! ### Volume claims and pods -/

structure ClaimSpec where
  accessModes : Option (List String) := none
  resources : Option Resources := none
  deriving DecidableEq, Repr

/-- A claim to a volume. -/
structure Claim where
  metadata : Metadata := {}
  spec : Option ClaimSpec := none
  deriving DecidableEq, Repr

structure PodStatus where
  phase : Option String := none
  deriving DecidableEq, Repr

structure Pod where
  metadata : Metadata := {}
  status : Option PodStatus := none
  deriving DecidableEq, Repr

namespace Pod

/-- The phase of the pod, if it is reported. -/
def phase? (pod : Pod) : Option String :=
  pod.status.bind (·.phase)

/-- The phase of a pod whose containers run. -/
def runningPhase : String := "Running"

/-- The phase of a pod that has failed for good. -/
def failedPhase : String := "Failed"

/-- A pod with a name, labels and a phase. -/
def named (name : String) (labels : Labels) (phase : String) : Pod :=
  { metadata := Metadata.named name labels, status := some { phase := some phase } }

end Pod

/-! ### JSON -/

/-- An object with the two fields that say what it is. -/
def typedJson (apiVersion kind : String) (fields : List (String × Option Json)) : Json :=
  Json.ofFields
    (("apiVersion", some (.string apiVersion)) :: ("kind", some (.string kind)) :: fields)

def PodSpec.toJson (spec : PodSpec) : Json :=
  Json.ofFields
    [("containers", some (.array (spec.containers.map Container.toJson))),
      ("initContainers", spec.initContainers.map fun containers =>
        .array (containers.map Container.toJson)),
      ("volumes", spec.volumes.map fun volumes => .array (volumes.map Volume.toJson))]

def PodTemplate.toJson (template : PodTemplate) : Json :=
  Json.ofFields
    [("metadata", template.metadata.map Metadata.toJson),
      ("spec", template.spec.map PodSpec.toJson)]

def DeploymentSpec.toJson (spec : DeploymentSpec) : Json :=
  Json.ofFields
    [("replicas", spec.replicas.map .integer),
      ("selector", some (Json.ofFields [("matchLabels", spec.matchLabels.map TextMap.toJson)])),
      ("strategy", spec.strategy.map fun kind => Json.ofFields [("type", kind.map .string)]),
      ("template", some spec.template.toJson)]

def Deployment.apiVersion : String := "apps/v1"

def Deployment.kind : String := "Deployment"

def Deployment.toJson (deployment : Deployment) : Json :=
  typedJson Deployment.apiVersion Deployment.kind
    [("metadata", some deployment.metadata.toJson),
      ("spec", deployment.spec.map DeploymentSpec.toJson)]

def PortRef.toJson : PortRef → Json
  | .number port => .integer port
  | .name port => .string port

def ServicePort.toJson (port : ServicePort) : Json :=
  Json.ofFields
    [("name", port.name.map .string),
      ("port", some (.integer port.port)),
      ("protocol", port.protocol.map .string),
      ("targetPort", port.targetPort.map PortRef.toJson)]

def ServiceSpec.toJson (spec : ServiceSpec) : Json :=
  Json.ofFields
    [("clusterIP", spec.clusterIP.map .string),
      ("clusterIPs", spec.clusterIPs.map Json.ofStrings),
      ("ports", spec.ports.map fun ports => .array (ports.map ServicePort.toJson)),
      ("selector", spec.selector.map TextMap.toJson)]

def Service.apiVersion : String := "v1"

def Service.kind : String := "Service"

def Service.toJson (service : Service) : Json :=
  typedJson Service.apiVersion Service.kind
    [("metadata", some service.metadata.toJson), ("spec", service.spec.map ServiceSpec.toJson)]

def ClaimSpec.toJson (spec : ClaimSpec) : Json :=
  Json.ofFields
    [("accessModes", spec.accessModes.map Json.ofStrings),
      ("resources", spec.resources.map Resources.toJson)]

def Claim.apiVersion : String := "v1"

def Claim.kind : String := "PersistentVolumeClaim"

def Claim.toJson (claim : Claim) : Json :=
  typedJson Claim.apiVersion Claim.kind
    [("metadata", some claim.metadata.toJson), ("spec", claim.spec.map ClaimSpec.toJson)]

def PodStatus.toJson (status : PodStatus) : Json :=
  Json.ofFields [("phase", status.phase.map .string)]

def Pod.apiVersion : String := "v1"

def Pod.kind : String := "Pod"

def Pod.toJson (pod : Pod) : Json :=
  typedJson Pod.apiVersion Pod.kind
    [("metadata", some pod.metadata.toJson), ("status", pod.status.map PodStatus.toJson)]

end DevfilePush.Kubernetes
