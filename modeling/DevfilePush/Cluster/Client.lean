import DevfilePush.Failure
import DevfilePush.Kubernetes.Object

/-!
What a push needs of a cluster.

A `ClusterClient` is bound to one namespace and works on a state of any kind: a cluster
in memory, a connection, or the answers that a proof prescribes. Every operation may
change the state and may fail.
-/

namespace DevfilePush

open Kubernetes (Claim Deployment Pod Service)

/-- Work on a cluster in state `σ`. -/
abbrev Session (σ : Type) := ExceptT Failure (StateM σ)

/-- What a pod watch reports. -/
inductive PodEvent where
  | observed (pod : Pod)
  | failed (cause : Failure)
  deriving DecidableEq, Repr

/-- Everything that a pod watch reports. -/
structure PodWatch where
  /-- The events that are there at once. -/
  ready : List PodEvent
  /-- Later events with their times in milliseconds, in order of time. -/
  later : List (Nat × PodEvent)
  /-- Whether the watch ends after its last event. -/
  ends : Bool
  deriving DecidableEq, Repr

/-- What came of running a program in a container. -/
structure ExecResult where
  /-- The lines of its output. -/
  lines : List String
  failure : Option Failure
  deriving DecidableEq, Repr

/-- Access to the objects of one namespace. -/
structure ClusterClient (σ : Type) where
  /-- The Deployments that match a selector. -/
  listDeployments : String → Session σ (List Deployment)
  createDeployment : Deployment → Session σ Deployment
  /-- Replaces a Deployment, which has to carry the live version. -/
  replaceDeployment : Deployment → Session σ Deployment
  deleteDeployment : String → Session σ Unit
  getService : String → Session σ (Option Service)
  createService : Service → Session σ Service
  /-- Replaces a Service, which has to carry the live version and address. -/
  replaceService : Service → Session σ Service
  deleteService : String → Session σ Unit
  getClaim : String → Session σ (Option Claim)
  createClaim : Claim → Session σ Claim
  /-- The pods that match a selector. -/
  listPods : String → Session σ (List Pod)
  deletePod : String → Session σ Unit
  /-- Watches the pods that match a selector: those that there are, then every change. -/
  watchPods : String → Session σ PodWatch
  /-- Ends the watch opened last, after waiting on it for that many milliseconds. -/
  endWatch : Nat → StateM σ Unit
  /-- Runs a program in a container of a pod. -/
  exec : (pod container : String) → (program : List String) → StateM σ ExecResult

/-- Runs a program and asks for its success. -/
def ClusterClient.execOrFail {σ : Type} (client : ClusterClient σ) (pod container : String)
    (program : List String) : Session σ (List String) := do
  let result ← client.exec pod container program
  match result.failure with
  | some failure => throw failure
  | none => return result.lines

/-- Work whose failure is a result. -/
def attempt {σ α : Type} (work : Session σ α) : StateM σ (Except Failure α) :=
  work.run

end DevfilePush
