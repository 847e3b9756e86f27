import DevfilePush.Push.Readiness
import DevfilePush.Synthesis.Desired

/-!
Bringing the cluster into the desired state.

A component that has no Deployment yet is created; otherwise its Deployment is replaced,
and its Service replaced, created or deleted as needed. Claims are only ever created.
The first failure ends the work, and what has been written stays.
-/

namespace DevfilePush

open Kubernetes (Claim Deployment Service)

/-- What reconciling did. -/
inductive ReconcileAction where
  | created
  | updated
  deriving DecidableEq, Repr

def ReconcileAction.name : ReconcileAction → String
  | created => "created"
  | updated => "updated"

structure ReconcileOutcome where
  action : ReconcileAction
  /-- The name of the running pod. -/
  pod : String
  deriving DecidableEq, Repr

def ReconcileOutcome.toJson (outcome : ReconcileOutcome) : Json :=
  .object [("action", .string outcome.action.name), ("pod", .string outcome.pod)]

/-- Creates the claims that do not exist yet. -/
def ensureClaims {σ : Type} (client : ClusterClient σ) : List Claim → Session σ Unit
  | [] => return ()
  | claim :: rest => do
    match ← client.getClaim claim.metadata.nameOrEmpty with
    | some _ => ensureClaims client rest
    | none =>
      let _ ← client.createClaim claim
      ensureClaims client rest

/-- Creates the Deployment, and the Service if there is to be one. -/
def createComponent {σ : Type} (client : ClusterClient σ) (desired : DesiredComponent) :
    Session σ Unit := do
  let _ ← client.createDeployment desired.deployment
  match desired.service with
  | none => return ()
  | some service =>
    let _ ← client.createService service

/-- The desired Service as it replaces the live one: with its version and addresses. -/
def Kubernetes.Service.replacing (service live : Service) : Service :=
  let spec := match service.spec, live.spec with
    | some spec, some liveSpec =>
      some { spec with clusterIP := liveSpec.clusterIP, clusterIPs := liveSpec.clusterIPs }
    | spec, _ => spec
  { service.withVersion live.metadata.resourceVersion with spec := spec }

/-- Brings the Service in line with the desired state. -/
def updateService {σ : Type} (client : ClusterClient σ) (desired : DesiredComponent) :
    Session σ Unit := do
  match desired.service, ← client.getService desired.name with
  | some service, some live =>
    let _ ← client.replaceService (service.replacing live)
  | some service, none =>
    let _ ← client.createService service
  | none, some _ => client.deleteService desired.name
  | none, none => return ()

/-- Replaces the Deployment and brings the Service in line. -/
def updateComponent {σ : Type} (client : ClusterClient σ) (desired : DesiredComponent)
    (live : Deployment) : Session σ Unit := do
  let _ ← client.replaceDeployment
    (desired.deployment.withVersion live.metadata.resourceVersion)
  updateService client desired

/-- Creates or updates the component, as the live Deployment asks for. -/
def applyComponent {σ : Type} (client : ClusterClient σ) (desired : DesiredComponent) :
    Option Deployment → Session σ ReconcileAction
  | none => do
    createComponent client desired
    return .created
  | some live => do
    updateComponent client desired live
    return .updated

/-- Brings the cluster into the desired state and waits for a running pod. -/
def reconcile {σ : Type} (client : ClusterClient σ) (timeout : Duration)
    (desired : DesiredComponent) : Session σ ReconcileOutcome := do
  let deployments ← client.listDeployments desired.selector
  let live := deployments.find? fun deployment => deployment.metadata.name = some desired.name
  ensureClaims client desired.claims
  let action ← applyComponent client desired live
  let pod ← waitForRunningPod client timeout desired.selector
  return ⟨action, pod.metadata.nameOrEmpty⟩

end DevfilePush
