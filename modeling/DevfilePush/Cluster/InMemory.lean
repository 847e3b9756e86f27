import DevfilePush.Cluster.Client
import DevfilePush.Cluster.LineCapture
import DevfilePush.Cluster.Selector
import DevfilePush.Collection.OrderedMap
import DevfilePush.Text.Quoted

/-!
A cluster in memory.

It keeps objects by name, gives every write a version of its own and refuses to replace
an object by one that is based on another version. Writing a Deployment schedules a pod
for it. Every operation is recorded, and any operation can be made to fail.
-/

namespace DevfilePush

open Kubernetes (Claim Deployment Metadata Pod Service ServiceSpec)

/-- The operations of a cluster client. -/
inductive Operation where
  | listDeployments
  | createDeployment
  | replaceDeployment
  | deleteDeployment
  | getService
  | createService
  | replaceService
  | deleteService
  | getClaim
  | createClaim
  | listPods
  | deletePod
  | watchPods
  | exec
  deriving DecidableEq, Repr

/-- The name of the operation in a record of calls. -/
def Operation.name : Operation → String
  | listDeployments => "ListDeployments"
  | createDeployment => "CreateDeployment"
  | replaceDeployment => "ReplaceDeployment"
  | deleteDeployment => "DeleteDeployment"
  | getService => "GetService"
  | createService => "CreateService"
  | replaceService => "ReplaceService"
  | deleteService => "DeleteService"
  | getClaim => "GetPvc"
  | createClaim => "CreatePvc"
  | listPods => "ListPods"
  | deletePod => "DeletePod"
  | watchPods => "WatchPods"
  | exec => "Exec"

/-- All operations. -/
def Operation.all : List Operation :=
  [listDeployments, createDeployment, replaceDeployment, deleteDeployment, getService,
    createService, replaceService, deleteService, getClaim, createClaim, listPods, deletePod,
    watchPods, exec]

/-- The operation with the given name. -/
def Operation.ofName? (name : String) : Option Operation :=
  all.find? fun operation => operation.name = name

/-- Whether the operation can change the cluster. -/
def Operation.isMutating : Operation → Bool
  | listDeployments => false
  | getService => false
  | getClaim => false
  | listPods => false
  | watchPods => false
  | _ => true

/-- A recorded operation. -/
structure Call where
  operation : Operation
  /-- A name, a selector, or pod and container. -/
  target : String
  /-- The program of an exec call. -/
  command : List String
  deriving DecidableEq, Repr

def Call.toJson (call : Call) : Json :=
  .object
    [("operation", .string call.operation.name), ("target", .string call.target),
      ("command", Json.ofStrings call.command)]

/-- What a program run in a container is made to do. -/
structure ExecResponse where
  stdout : List String
  exitCode : Int
  deriving DecidableEq, Repr

/-- A watch and the pods that it has reported. -/
structure OpenWatch where
  number : Nat
  selector : String
  reported : List Pod
  /-- Whether somebody still receives what it reports. -/
  isKept : Bool
  deriving DecidableEq

namespace OpenWatch

/-- The watch after it has reported a pod, unless nobody receives it. -/
def report? (watch : OpenWatch) (pod : Pod) : Option OpenWatch :=
  if watch.isKept then some { watch with reported := watch.reported ++ [pod] } else none

/-- What becomes of a watch when a pod is published: it reports the pod if it is one of its
own, and in any case it is given up if nobody keeps it. -/
def published? (watch : OpenWatch) (pod : Pod) : Option OpenWatch :=
  if matchesSelector pod.metadata.labels watch.selector then watch.report? pod
  else if watch.isKept then some watch
  else none

/-- The watch when nobody receives anything any more. -/
def dropped (watch : OpenWatch) : OpenWatch :=
  { watch with reported := [], isKept := false }

end OpenWatch

/-- How a cluster in memory behaves. -/
structure ClusterBehaviour where
  /-- The phase of pods scheduled for a Deployment; without one none are scheduled. -/
  scheduledPodPhase : Option String
  /-- What programs do, by command line. -/
  execResponses : OrderedMap String ExecResponse
  /-- Operations that fail, with the message. -/
  failures : OrderedMap Operation String
  deriving DecidableEq

/-- The objects of a cluster and what its operations go by. -/
structure ClusterObjects where
  deployments : OrderedMap String Deployment
  services : OrderedMap String Service
  claims : OrderedMap String Claim
  pods : OrderedMap String Pod
  /-- The watches that pods are reported to. One that is closed is among them until the next
  pod is published. -/
  watches : List OpenWatch
  /-- The number of watches ever opened. -/
  watchCount : Nat
  /-- The version of the latest write. After the last number of 64 bits it begins again. -/
  version : UInt64
  /-- The last byte of the latest address. -/
  address : UInt8
  /-- The number of pods ever scheduled, in 64 bits. -/
  podCount : UInt64
  deriving DecidableEq

/-- A cluster in memory. -/
structure MemoryCluster where
  behaviour : ClusterBehaviour
  objects : ClusterObjects
  /-- The operations so far, in order. -/
  history : List Call
  deriving DecidableEq

namespace ClusterObjects

def empty : ClusterObjects :=
  ⟨.empty, .empty, .empty, .empty, [], 0, 0, 0, 0⟩

/-- Adds a pod, or changes it where it stands, and reports it to the watches that it
matches. -/
def publishPod (objects : ClusterObjects) (pod : Pod) : ClusterObjects :=
  { objects with
    pods := objects.pods.insert pod.metadata.nameOrEmpty pod
    watches := objects.watches.filterMap (·.published? pod) }

/-- Whether a pod belongs to the Deployment called `owner`, by its name. -/
def isPodOf (owner pod : String) : Bool :=
  (owner ++ "-").toList.isPrefixOf pod.toList

/-- Replaces the pods of a Deployment by a new one. -/
def schedulePod (objects : ClusterObjects) (phase : Option String) (deployment : Deployment) :
    ClusterObjects :=
  match phase with
  | none => objects
  | some phase =>
    let owner := deployment.metadata.nameOrEmpty
    let number := objects.podCount + 1
    let objects :=
      { objects with
        pods := objects.pods.filterKeys fun name => !isPodOf owner name
        podCount := number }
    objects.publishPod
      (Pod.named (owner ++ "-" ++ toString number.toNat) deployment.templateLabels phase)

/-- Opens a watch, which reports the pods that there are. -/
def openWatch (objects : ClusterObjects) (selector : String) : OpenWatch × ClusterObjects :=
  let pods := objects.pods.values.filter fun pod => matchesSelector pod.metadata.labels selector
  let watch : OpenWatch := ⟨objects.watchCount, selector, pods, true⟩
  (watch,
    { objects with
      watches := objects.watches ++ [watch]
      watchCount := objects.watchCount + 1 })

/-- Closes a watch. -/
def closeWatch (objects : ClusterObjects) (number : Nat) : ClusterObjects :=
  { objects with
    watches := objects.watches.map fun watch =>
      if watch.number = number then watch.dropped else watch }

end ClusterObjects

/-! ### Writes

Each writes step by step and answers the object as it is stored. -/

/-- There is an object of that name already. -/
def alreadyExists (resource name : String) : Failure :=
  .cluster (.api 409 s!"{resource} \"{name}\" already exists")

/-- The object is based on another version than the live one. -/
def modifiedMeanwhile (resource name : String) : Failure :=
  .cluster (.api 409
    s!"Operation cannot be fulfilled on {resource} \"{name}\": the object has been modified")

/-- An address that may be absent, as an error message shows it. -/
def addressText : Option String → String
  | none => "None"
  | some address => s!"Some({Text.quoted address})"

/-- The Service has another address than the live one. -/
def addressChanged (name : String) (sent : Option String) : Failure :=
  .cluster (.api 422
    (s!"Service \"{name}\" is invalid: spec.clusterIP: Invalid value: {addressText sent}: " ++
      "field is immutable"))

/-- There is no such object. -/
def missingObject (kind name : String) : Failure :=
  .cluster (.notFound kind name)

/-- The metadata of a newly written object. -/
def Kubernetes.Metadata.stamped (metadata : Metadata) (version : String) : Metadata :=
  { metadata with resourceVersion := some version }

/-- Work on the objects of a cluster. If it fails, what it has written before stays. -/
abbrev ObjectWork (α : Type) :=
  Session ClusterObjects α

namespace ObjectWork

/-- Takes the version of the next write. -/
def takeVersion : ObjectWork String := do
  modify fun objects => { objects with version := objects.version + 1 }
  return toString (← get).version.toNat

/-- Takes the address of the next Service. After 255 the last byte begins again. -/
def takeAddress : ObjectWork String := do
  modify fun objects => { objects with address := objects.address + 1 }
  return "10.96.0." ++ toString (← get).address.toNat

/-- Objects are replaced over their live version only. -/
def checkVersion (resource : String) (live sent : Kubernetes.Metadata) : ObjectWork Unit := do
  if live.resourceVersion ≠ sent.resourceVersion then
    throw (modifiedMeanwhile resource sent.nameOrEmpty)

/-- Stores a Deployment under its name and schedules its pod. -/
def storeDeployment (phase : Option String) (deployment : Deployment) :
    ObjectWork Deployment := do
  let version ← takeVersion
  let stored := { deployment with metadata := deployment.metadata.stamped version }
  modify fun objects =>
    { objects with
      deployments := objects.deployments.insert deployment.metadata.nameOrEmpty stored }
  modify fun objects => objects.schedulePod phase stored
  return stored

def createDeployment (phase : Option String) (deployment : Deployment) :
    ObjectWork Deployment := do
  let name := deployment.metadata.nameOrEmpty
  if (← get).deployments.contains name then throw (alreadyExists "deployments.apps" name)
  storeDeployment phase deployment

def replaceDeployment (phase : Option String) (deployment : Deployment) :
    ObjectWork Deployment := do
  let name := deployment.metadata.nameOrEmpty
  match (← get).deployments.get? name with
  | none => throw (missingObject "Deployment" name)
  | some live =>
    checkVersion "deployments.apps" live.metadata deployment.metadata
    storeDeployment phase deployment

def deleteDeployment (name : String) : ObjectWork Unit := do
  let live := (← get).deployments.get? name
  modify fun objects => { objects with deployments := objects.deployments.erase name }
  if live.isNone then throw (missingObject "Deployment" name)

/-- Stores a Service under its name. -/
def storeService (service : Service) : ObjectWork Service := do
  let version ← takeVersion
  let stored := { service with metadata := service.metadata.stamped version }
  modify fun objects =>
    { objects with services := objects.services.insert service.metadata.nameOrEmpty stored }
  return stored

/-- Creates a Service, which gets an address of its own. -/
def createService (service : Service) : ObjectWork Service := do
  let name := service.metadata.nameOrEmpty
  if (← get).services.contains name then throw (alreadyExists "services" name)
  let address ← takeAddress
  let spec : ServiceSpec :=
    { service.spec.getD {} with clusterIP := some address, clusterIPs := some [address] }
  storeService { service with spec := some spec }

def replaceService (service : Service) : ObjectWork Service := do
  let name := service.metadata.nameOrEmpty
  match (← get).services.get? name with
  | none => throw (missingObject "Service" name)
  | some live =>
    checkVersion "services" live.metadata service.metadata
    if live.clusterIP? ≠ service.clusterIP? then throw (addressChanged name service.clusterIP?)
    storeService service

def deleteService (name : String) : ObjectWork Unit := do
  let live := (← get).services.get? name
  modify fun objects => { objects with services := objects.services.erase name }
  if live.isNone then throw (missingObject "Service" name)

def createClaim (claim : Claim) : ObjectWork Claim := do
  let name := claim.metadata.nameOrEmpty
  if (← get).claims.contains name then throw (alreadyExists "persistentvolumeclaims" name)
  let version ← takeVersion
  let stored := { claim with metadata := claim.metadata.stamped version }
  modify fun objects => { objects with claims := objects.claims.insert name stored }
  return stored

def deletePod (name : String) : ObjectWork Unit := do
  let live := (← get).pods.get? name
  modify fun objects => { objects with pods := objects.pods.erase name }
  if live.isNone then throw (missingObject "Pod" name)

/-- Opens a watch. -/
def openWatch (selector : String) : ObjectWork OpenWatch :=
  modifyGet fun objects => objects.openWatch selector

end ObjectWork

/-! ### The client -/

namespace MemoryCluster

/-- A cluster without objects, whose scheduled pods have the given phase. -/
def empty (scheduledPodPhase : Option String) : MemoryCluster :=
  ⟨⟨scheduledPodPhase, .empty, .empty⟩, .empty, []⟩

/-- Adds a pod from outside. -/
def addPod (cluster : MemoryCluster) (pod : Pod) : MemoryCluster :=
  { cluster with objects := cluster.objects.publishPod pod }

/-- Records an operation. -/
def record (call : Call) (cluster : MemoryCluster) : MemoryCluster :=
  { cluster with history := cluster.history ++ [call] }

/-- The failure that an operation is made to end in. -/
def injected? (cluster : MemoryCluster) (operation : Operation) : Option Failure :=
  (cluster.behaviour.failures.get? operation).map fun message => .cluster (.injected message)

/-- Work on the objects alone. -/
def onObjects {α : Type} (work : ObjectWork α) : Session MemoryCluster α :=
  fun cluster =>
    let (answer, objects) := work cluster.objects
    (answer, { cluster with objects := objects })

/-- One operation: it is recorded, and unless it is made to fail it works on the objects. -/
def perform {α : Type} (call : Call) (work : ClusterBehaviour → ObjectWork α) :
    Session MemoryCluster α := do
  modify (record call)
  let cluster ← get
  match cluster.injected? call.operation with
  | some failure => throw failure
  | none => onObjects (work cluster.behaviour)

/-- One operation that only looks. -/
def inspect {α : Type} (call : Call) (view : ClusterObjects → α) : Session MemoryCluster α :=
  perform call fun _ => return view (← get)

/-- What running a program does: its output, and a failure if it does not end well. -/
def runProgram (behaviour : ClusterBehaviour) (objects : ClusterObjects) (pod container : String)
    (program : List String) : ExecResult :=
  if objects.pods.contains pod then
    let response := (behaviour.execResponses.get? (" ".intercalate program)).getD ⟨[], 0⟩
    let output := response.stdout.flatMap fun line => Text.Utf8.encode line ++ [lineFeed]
    { lines := capturedLines output
      failure :=
        if response.exitCode = 0 then none
        else some (.cluster (.exec container
          s!"command exited with code {response.exitCode}")) }
  else { lines := [], failure := some (missingObject "Pod" pod) }

/-- Running a program in a container. -/
def exec (pod container : String) (program : List String) : StateM MemoryCluster ExecResult := do
  let call : Call := ⟨.exec, pod ++ "/" ++ container, program⟩
  modify (record call)
  let cluster ← get
  match cluster.injected? .exec with
  | some failure => return { lines := [], failure := some failure }
  | none => return runProgram cluster.behaviour cluster.objects pod container program

/-- Opens a watch. -/
def openWatch (selector : String) : Session MemoryCluster OpenWatch :=
  perform ⟨.watchPods, selector, []⟩ fun _ => .openWatch selector

/-- The client of a cluster in memory. -/
def client : ClusterClient MemoryCluster where
  listDeployments selector := inspect ⟨.listDeployments, selector, []⟩ fun objects =>
    objects.deployments.values.filter fun deployment =>
      matchesSelector deployment.metadata.labels selector
  createDeployment deployment :=
    perform ⟨.createDeployment, deployment.metadata.nameOrEmpty, []⟩ fun behaviour =>
      .createDeployment behaviour.scheduledPodPhase deployment
  replaceDeployment deployment :=
    perform ⟨.replaceDeployment, deployment.metadata.nameOrEmpty, []⟩ fun behaviour =>
      .replaceDeployment behaviour.scheduledPodPhase deployment
  deleteDeployment name := perform ⟨.deleteDeployment, name, []⟩ fun _ => .deleteDeployment name
  getService name := inspect ⟨.getService, name, []⟩ (·.services.get? name)
  createService service :=
    perform ⟨.createService, service.metadata.nameOrEmpty, []⟩ fun _ => .createService service
  replaceService service :=
    perform ⟨.replaceService, service.metadata.nameOrEmpty, []⟩ fun _ => .replaceService service
  deleteService name := perform ⟨.deleteService, name, []⟩ fun _ => .deleteService name
  getClaim name := inspect ⟨.getClaim, name, []⟩ (·.claims.get? name)
  createClaim claim :=
    perform ⟨.createClaim, claim.metadata.nameOrEmpty, []⟩ fun _ => .createClaim claim
  listPods selector := inspect ⟨.listPods, selector, []⟩ fun objects =>
    objects.pods.values.filter fun pod => matchesSelector pod.metadata.labels selector
  deletePod name := perform ⟨.deletePod, name, []⟩ fun _ => .deletePod name
  watchPods selector := do
    let watch ← openWatch selector
    return ⟨watch.reported.map .observed, [], false⟩
  endWatch _ := modify fun cluster =>
    match cluster.objects.watches.reverse.find? (·.isKept) with
    | none => cluster
    | some watch => { cluster with objects := cluster.objects.closeWatch watch.number }
  exec := exec

end MemoryCluster

end DevfilePush
