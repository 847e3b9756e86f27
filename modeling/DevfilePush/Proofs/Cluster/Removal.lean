import DevfilePush.Proofs.Cluster.Operations
import DevfilePush.Proofs.Collection.OrderedMap

/-!
What removing an object leaves behind.

Whether an operation that removes an object succeeds depends on the object being there, but
what it leaves does not: afterwards the object is gone, unless the operation was made to
fail, and nothing else has changed (`objects_deleteDeployment` and its like).
-/

namespace DevfilePush

/-- Whether an operation is made to fail. -/
def ClusterBehaviour.fails (behaviour : ClusterBehaviour) (operation : Operation) : Bool :=
  behaviour.failures.contains operation

variable {behaviour : ClusterBehaviour} {operation : Operation}

theorem ClusterBehaviour.fails_eq_false_iff :
    behaviour.fails operation = false ↔ behaviour.failures.get? operation = none := by
  rw [fails, OrderedMap.contains, Option.isSome_eq_false_iff, Option.isNone_iff_eq_none]

theorem ClusterBehaviour.fails_of_get? {message : String}
    (injected : behaviour.failures.get? operation = some message) :
    behaviour.fails operation = true := by
  rw [fails, OrderedMap.contains, injected, Option.isSome_some]

/-- A calm cluster makes nothing fail. -/
theorem ClusterBehaviour.IsCalm.fails_eq_false (calm : behaviour.IsCalm) :
    behaviour.fails operation = false :=
  fails_eq_false_iff.mpr (calm operation)

namespace MemoryCluster

open Kubernetes (Pod)

variable {α : Type} {cluster : MemoryCluster}

/-- A transaction is recorded, and the objects are as it leaves them, or as they were where it
fails. -/
theorem after_transact {call : Call}
    {outcome : ClusterBehaviour → ClusterObjects → Except Failure (α × ClusterObjects)} :
    (transact call outcome cluster).2 =
      { cluster.record call with
        objects :=
          if cluster.behaviour.fails call.operation then cluster.objects
          else match outcome cluster.behaviour cluster.objects with
            | .ok done => done.2
            | .error _ => cluster.objects } := by
  rw [transact_run, injected?]
  cases injected : cluster.behaviour.failures.get? call.operation with
  | some message =>
    have fails := ClusterBehaviour.fails_of_get? injected
    simp [record, fails]
  | none =>
    have works := ClusterBehaviour.fails_eq_false_iff.mpr injected
    simp only [Option.map_none, record, works]
    cases outcome cluster.behaviour cluster.objects <;> rfl

/-- No operation changes how the cluster behaves. -/
theorem behaviour_transact {call : Call}
    {outcome : ClusterBehaviour → ClusterObjects → Except Failure (α × ClusterObjects)} :
    (transact call outcome cluster).2.behaviour = cluster.behaviour := by
  rw [after_transact]
  rfl

/-! ### Deletions -/

/-- The Deployment of the name is gone, if it was there, unless its removal was made to fail. -/
theorem objects_deleteDeployment (name : String) :
    (client.deleteDeployment name cluster).2.objects =
      { cluster.objects with
        deployments :=
          if cluster.behaviour.fails .deleteDeployment then cluster.objects.deployments
          else cluster.objects.deployments.erase name } := by
  simp only [client_deleteDeployment, after_transact, ClusterObjects.deleteDeployment]
  cases fails : cluster.behaviour.fails .deleteDeployment with
  | true => rfl
  | false =>
    cases live : cluster.objects.deployments.get? name with
    | some stored => simp [OrderedMap.contains, live]
    | none => simp [OrderedMap.contains, live, OrderedMap.erase_of_get?_eq_none live]

theorem objects_deleteService (name : String) :
    (client.deleteService name cluster).2.objects =
      { cluster.objects with
        services :=
          if cluster.behaviour.fails .deleteService then cluster.objects.services
          else cluster.objects.services.erase name } := by
  simp only [client_deleteService, after_transact, ClusterObjects.deleteService]
  cases fails : cluster.behaviour.fails .deleteService with
  | true => rfl
  | false =>
    cases live : cluster.objects.services.get? name with
    | some stored => simp [OrderedMap.contains, live]
    | none => simp [OrderedMap.contains, live, OrderedMap.erase_of_get?_eq_none live]

theorem objects_deletePod (name : String) :
    (client.deletePod name cluster).2.objects =
      { cluster.objects with
        pods :=
          if cluster.behaviour.fails .deletePod then cluster.objects.pods
          else cluster.objects.pods.erase name } := by
  simp only [client_deletePod, after_transact, ClusterObjects.deletePod]
  cases fails : cluster.behaviour.fails .deletePod with
  | true => rfl
  | false =>
    cases live : cluster.objects.pods.get? name with
    | some stored => simp [OrderedMap.contains, live]
    | none => simp [OrderedMap.contains, live, OrderedMap.erase_of_get?_eq_none live]

end MemoryCluster

end DevfilePush
