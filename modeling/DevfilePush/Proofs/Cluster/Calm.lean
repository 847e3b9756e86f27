import DevfilePush.Proofs.Cluster.Operations

/-!
Work on a cluster where nothing is made to fail.

There each operation does one thing, given the objects, so that work which succeeds can be
followed step by step: `Performs` says which calls it makes, what it answers and what it
leaves behind, whatever has been recorded before.
-/

namespace DevfilePush.MemoryCluster

open Kubernetes (Claim Deployment Service)

variable {α β : Type} {behaviour : ClusterBehaviour} {before between after : ClusterObjects}

/-- Work succeeds: it makes the calls, answers the value and leaves `after` behind. -/
def Performs (behaviour : ClusterBehaviour) (work : Session MemoryCluster α)
    (before : ClusterObjects) (calls : List Call) (value : α) (after : ClusterObjects) : Prop :=
  ∀ history, work ⟨behaviour, before, history⟩ =
    (.ok value, ⟨behaviour, after, history ++ calls⟩)

/-! ### Rules -/

theorem Performs.pure (value : α) :
    Performs behaviour (Pure.pure value) before [] value before := by
  intro history
  rw [List.append_nil]
  rfl

/-- One step after another: the calls of the second follow those of the first. -/
theorem Performs.bind {work : Session MemoryCluster β} {next : β → Session MemoryCluster α}
    {first second : List Call} {mid : β} {value : α}
    (begins : Performs behaviour work before first mid between)
    (goesOn : Performs behaviour (next mid) between second value after) :
    Performs behaviour (work >>= next) before (first ++ second) value after := by
  intro history
  rw [Session.bind_run, begins history]
  change next mid ⟨behaviour, between, history ++ first⟩ = _
  rw [goesOn, List.append_assoc]

/-! ### Operations -/

variable (calm : behaviour.IsCalm)

include calm

/-- On a calm cluster a transaction that can succeed does so, and is recorded. -/
theorem performs_of_outcome {call : Call}
    {outcome : ClusterBehaviour → ClusterObjects → Except Failure (α × ClusterObjects)} {value : α}
    (done : outcome behaviour before = .ok (value, after)) :
    Performs behaviour (transact call outcome) before [call] value after := by
  intro history
  have undisturbed : injected? ⟨behaviour, before, history⟩ call.operation = none := by
    rw [injected?, calm call.operation, Option.map_none]
  have ended : outcome (mk behaviour before history).behaviour
      (mk behaviour before history).objects = .ok (value, after) := done
  rw [transact_run, undisturbed, ended]
  rfl

/-- Looking at objects leaves them as they are. -/
theorem listDeployments_performs (before : ClusterObjects) (selector : String) :
    Performs behaviour (client.listDeployments selector) before
      [⟨.listDeployments, selector, []⟩]
      (before.deployments.values.filter fun deployment =>
        matchesSelector deployment.metadata.labels selector) before := by
  simp only [client, inspect_eq]
  exact performs_of_outcome calm rfl

/-- A Deployment is created where there is none of its name. -/
theorem createDeployment_performs {deployment : Deployment}
    (free : before.deployments.get? deployment.metadata.nameOrEmpty = none) :
    Performs behaviour (client.createDeployment deployment) before
      [⟨.createDeployment, deployment.metadata.nameOrEmpty, []⟩]
      (before.storeDeployment behaviour.scheduledPodPhase deployment).1
      (before.storeDeployment behaviour.scheduledPodPhase deployment).2 := by
  rw [client_createDeployment]
  exact performs_of_outcome calm (ClusterObjects.createDeployment_of_free free)

/-- It is replaced over the version that it has. -/
theorem replaceDeployment_performs {deployment live : Deployment}
    (isLive : before.deployments.get? deployment.metadata.nameOrEmpty = some live)
    (same : live.metadata.resourceVersion = deployment.metadata.resourceVersion) :
    Performs behaviour (client.replaceDeployment deployment) before
      [⟨.replaceDeployment, deployment.metadata.nameOrEmpty, []⟩]
      (before.storeDeployment behaviour.scheduledPodPhase deployment).1
      (before.storeDeployment behaviour.scheduledPodPhase deployment).2 := by
  rw [client_replaceDeployment]
  exact performs_of_outcome calm (ClusterObjects.replaceDeployment_of_live isLive same)

theorem getService_performs (before : ClusterObjects) (name : String) :
    Performs behaviour (client.getService name) before [⟨.getService, name, []⟩]
      (before.services.get? name) before := by
  simp only [client, inspect_eq]
  exact performs_of_outcome calm rfl

theorem createService_performs {service : Service}
    (free : before.services.get? service.metadata.nameOrEmpty = none) :
    Performs behaviour (client.createService service) before
      [⟨.createService, service.metadata.nameOrEmpty, []⟩]
      (before.withService service).1 (before.withService service).2 := by
  rw [client_createService]
  exact performs_of_outcome calm (ClusterObjects.createService_of_free free)

/-- A Service also has to keep its address. -/
theorem replaceService_performs {service live : Service}
    (isLive : before.services.get? service.metadata.nameOrEmpty = some live)
    (same : live.metadata.resourceVersion = service.metadata.resourceVersion)
    (kept : live.clusterIP? = service.clusterIP?) :
    Performs behaviour (client.replaceService service) before
      [⟨.replaceService, service.metadata.nameOrEmpty, []⟩]
      (before.storeService service).1 (before.storeService service).2 := by
  rw [client_replaceService]
  exact performs_of_outcome calm (ClusterObjects.replaceService_of_live isLive same kept)

theorem getClaim_performs (before : ClusterObjects) (name : String) :
    Performs behaviour (client.getClaim name) before [⟨.getClaim, name, []⟩]
      (before.claims.get? name) before := by
  simp only [client, inspect_eq]
  exact performs_of_outcome calm rfl

theorem createClaim_performs {claim : Claim}
    (free : before.claims.get? claim.metadata.nameOrEmpty = none) :
    Performs behaviour (client.createClaim claim) before
      [⟨.createClaim, claim.metadata.nameOrEmpty, []⟩]
      (before.withClaim claim).1 (before.withClaim claim).2 := by
  rw [client_createClaim]
  exact performs_of_outcome calm (ClusterObjects.createClaim_of_free free)

end DevfilePush.MemoryCluster
