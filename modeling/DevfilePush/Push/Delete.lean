import DevfilePush.Cluster.Client
import DevfilePush.Synthesis.Identity

/-!
Deleting a component: its Deployment, its Service and its pods. Claims are kept.

Every step is tried, whatever becomes of the others, and the first failure is reported.
A Service that is not there counts as deleted.
-/

namespace DevfilePush

open Kubernetes (Pod)

/-- The failure of a step, if it failed. -/
def stepFailure? : Except Failure Unit → Option Failure
  | .ok () => none
  | .error failure => some failure

/-- The failure of deleting the Service, unless it was not there. -/
def serviceFailure? (result : Except Failure Unit) : Option Failure :=
  (stepFailure? result).filter fun failure => !failure.cluster?.any ClusterError.isNotFound

/-- Deletes pods one after another and answers the failures. -/
def deletePods {σ : Type} (client : ClusterClient σ) : List Pod → StateM σ (List Failure)
  | [] => return []
  | pod :: rest => do
    let result ← attempt (client.deletePod pod.metadata.nameOrEmpty)
    return (stepFailure? result).toList ++ (← deletePods client rest)

/-- Tries every step of deleting a component with the given pods and answers the
failures, in the order of the steps. -/
def deleteObjects {σ : Type} (client : ClusterClient σ) (name : String) (pods : List Pod) :
    StateM σ (List Failure) := do
  let deployment ← attempt (client.deleteDeployment name)
  let service ← attempt (client.deleteService name)
  let others ← deletePods client pods
  return (stepFailure? deployment).toList ++ (serviceFailure? service).toList ++ others

/-- Deletes a component, which has to have pods. -/
def deleteComponent {σ : Type} (client : ClusterClient σ) (name : String) (labels : Labels) :
    Session σ Unit := do
  let pods ← client.listPods (labelSelector labels)
  if pods.isEmpty then throw (.cluster (.componentNotFound name))
  match ← deleteObjects client name pods with
  | [] => return ()
  | first :: _ => throw first

end DevfilePush
