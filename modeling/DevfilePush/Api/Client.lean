import DevfilePush.Api.Exec
import DevfilePush.Api.Watch

/-!
The cluster client that speaks to the API of a cluster.

An object that is to be read, replaced or deleted needs a name; without one nothing is
asked. Of the refusals, those of replacing and deleting an object that is not there are
told apart, and reading such an object is no failure at all.
-/

namespace DevfilePush.Api

open Kubernetes (Claim Deployment Pod Service)

/-- A request was left without a reply. -/
def noReply : Failure :=
  .cluster (.client none)

/-- A request that needs the name of an object has none. -/
def nameMissing : Failure :=
  .cluster (.client none)

/-- Sends a request and reads the content of its reply. -/
def ask {α : Type} (request : Request) (read : Json → Option α) :
    Session Playback (Except NoContent α) := do
  match ← send request with
  | none => throw noReply
  | some reply => return reply.read read

/-- A request about a named object. -/
def askNamed {α : Type} (name : String) (request : Request) (read : Json → Option α) :
    Session Playback (Except NoContent α) := do
  if name = "" then throw nameMissing
  ask request read

/-- The content of a reply, or the failure that `describe` makes of having none. -/
def content {α : Type} (describe : NoContent → Failure) :
    Except NoContent α → Session Playback α
  | .ok value => return value
  | .error reason => throw (describe reason)

section

variable {α : Type} (space : String) (resource : Resource) (read : Json → Option α)

/-- The objects that match a selector. -/
def list (selector : String) : Session Playback (List α) := do
  let page ← ask (.list space resource selector) (Kubernetes.readPage read)
  return (← content NoContent.failure page).items

/-- Creates an object. -/
def create (body : Json) : Session Playback α := do
  content NoContent.failure (← ask (.create space resource body) read)

/-- One object, if it is there. -/
def get (name : String) : Session Playback (Option α) := do
  match ← askNamed name (.get space resource name) read with
  | .ok object => return some object
  | .error (.refused refusal) =>
    if refusal.saysNotFound then return none else throw refusal.failure
  | .error .unreadable => throw notUnderstood

/-- Replaces an object. -/
def replace (kind name : String) (body : Json) : Session Playback α := do
  let replaced ← askNamed name (.replace space resource name body) read
  content (NoContent.failureFor kind name) replaced

/-- Deletes an object. -/
def delete (kind name : String) : Session Playback Unit := do
  let deleted ← askNamed name (.delete space resource name) (readDeleted read)
  content (NoContent.failureFor kind name) deleted

end

/-- Runs a program in a container. -/
def exec (space pod container : String) (program : List String) : StateM Playback ExecResult := do
  if pod = "" then return ⟨[], some nameMissing⟩
  match ← send (.exec space pod container program) with
  | none => return ⟨[], some noReply⟩
  | some (.stream frames) => return execResult container frames
  | some (.body _ _) => return ⟨[], some notUnderstood⟩

/-- The client for a namespace. -/
def client (space : String) : ClusterClient Playback where
  listDeployments := list space .deployments Kubernetes.readDeployment
  createDeployment deployment :=
    create space .deployments Kubernetes.readDeployment deployment.toJson
  replaceDeployment deployment :=
    replace space .deployments Kubernetes.readDeployment Deployment.kind
      deployment.metadata.nameOrEmpty deployment.toJson
  deleteDeployment := delete space .deployments Kubernetes.readDeployment Deployment.kind
  getService := get space .services Kubernetes.readService
  createService service := create space .services Kubernetes.readService service.toJson
  replaceService service :=
    replace space .services Kubernetes.readService Service.kind
      service.metadata.nameOrEmpty service.toJson
  deleteService := delete space .services Kubernetes.readService Service.kind
  getClaim := get space .claims Kubernetes.readClaim
  createClaim claim := create space .claims Kubernetes.readClaim claim.toJson
  listPods := list space .pods Kubernetes.readPod
  deletePod := delete space .pods Kubernetes.readPod Pod.kind
  watchPods selector := do
    let events ← Api.watchPods space selector
    return ⟨events, [], false⟩
  endWatch _ := pure ()
  exec := exec space

end DevfilePush.Api
