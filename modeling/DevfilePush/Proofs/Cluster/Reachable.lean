import DevfilePush.Proofs.Cluster.Removal
import DevfilePush.Proofs.Cluster.Trials

/-!
What can become of a cluster in memory.

A cluster begins without objects. From then on its client is used, every operation at any
time and with any arguments; from outside pods are added, watches are closed, the record of
calls is dropped, and the cluster is made to behave in another way. `Reachable` is every
cluster that comes about like this. In all of them an object is stored under its own name
(`Reachable.filed`).
-/

namespace DevfilePush

open Kubernetes (Claim Deployment Pod Service)

namespace ClusterObjects

/-! ### Objects under their own names -/

/-- Every object is stored under its own name. -/
structure Filed (objects : ClusterObjects) : Prop where
  deployments : objects.deployments.KeyedBy fun deployment => deployment.metadata.nameOrEmpty
  services : objects.services.KeyedBy fun service => service.metadata.nameOrEmpty
  claims : objects.claims.KeyedBy fun claim => claim.metadata.nameOrEmpty
  pods : objects.pods.KeyedBy fun pod => pod.metadata.nameOrEmpty

theorem Filed.empty : Filed .empty :=
  ⟨.empty, .empty, .empty, .empty⟩

variable {objects : ClusterObjects} (filed : objects.Filed)

include filed

/-- A pod is published under its name, and so is one that is scheduled for a Deployment. -/
theorem Filed.publishPod (pod : Pod) : (objects.publishPod pod).Filed :=
  { filed with pods := filed.pods.insert rfl }

theorem Filed.schedulePod (phase : Option String) (deployment : Deployment) :
    (objects.schedulePod phase deployment).Filed := by
  cases phase with
  | none => exact filed
  | some phase =>
    -- The pod goes to objects that have already lost the Deployment's other pods.
    refine Filed.publishPod ?_ _
    exact { filed with pods := filed.pods.filterKeys _ }

/-- Objects that are written are stored under the name in their metadata, which no write
changes. -/
theorem Filed.storeDeployment (phase : Option String) (deployment : Deployment) :
    (objects.storeDeployment phase deployment).2.Filed := by
  refine Filed.schedulePod ?_ _ _
  exact { filed with deployments := filed.deployments.insert rfl }

theorem Filed.storeService (service : Service) : (objects.storeService service).2.Filed :=
  { filed with services := filed.services.insert rfl }

theorem Filed.withService (service : Service) : (objects.withService service).2.Filed :=
  { filed with services := filed.services.insert rfl }

theorem Filed.withClaim (claim : Claim) : (objects.withClaim claim).2.Filed :=
  { filed with claims := filed.claims.insert rfl }

end ClusterObjects

namespace MemoryCluster

open Session (Keeps)

/-! ### Steps -/

/-- One thing that happens to a cluster. -/
inductive Step : MemoryCluster → MemoryCluster → Prop where
  | listDeployments (cluster : MemoryCluster) (selector : String) :
      Step cluster (client.listDeployments selector cluster).2
  | createDeployment (cluster : MemoryCluster) (deployment : Deployment) :
      Step cluster (client.createDeployment deployment cluster).2
  | replaceDeployment (cluster : MemoryCluster) (deployment : Deployment) :
      Step cluster (client.replaceDeployment deployment cluster).2
  | deleteDeployment (cluster : MemoryCluster) (name : String) :
      Step cluster (client.deleteDeployment name cluster).2
  | getService (cluster : MemoryCluster) (name : String) :
      Step cluster (client.getService name cluster).2
  | createService (cluster : MemoryCluster) (service : Service) :
      Step cluster (client.createService service cluster).2
  | replaceService (cluster : MemoryCluster) (service : Service) :
      Step cluster (client.replaceService service cluster).2
  | deleteService (cluster : MemoryCluster) (name : String) :
      Step cluster (client.deleteService name cluster).2
  | getClaim (cluster : MemoryCluster) (name : String) :
      Step cluster (client.getClaim name cluster).2
  | createClaim (cluster : MemoryCluster) (claim : Claim) :
      Step cluster (client.createClaim claim cluster).2
  | listPods (cluster : MemoryCluster) (selector : String) :
      Step cluster (client.listPods selector cluster).2
  | deletePod (cluster : MemoryCluster) (name : String) :
      Step cluster (client.deletePod name cluster).2
  | watchPods (cluster : MemoryCluster) (selector : String) :
      Step cluster (client.watchPods selector cluster).2
  | exec (cluster : MemoryCluster) (pod container : String) (program : List String) :
      Step cluster (client.exec pod container program cluster).2
  /-- Any watch can be closed at any time. -/
  | closeWatch (cluster : MemoryCluster) (number : Nat) :
      Step cluster { cluster with objects := cluster.objects.closeWatch number }
  /-- A pod is added, or changed, from outside. -/
  | addPod (cluster : MemoryCluster) (pod : Pod) : Step cluster (cluster.addPod pod)
  /-- Operations are made to fail or to work again, pods get another phase, or programs do
  something else. -/
  | behave (cluster : MemoryCluster) (behaviour : ClusterBehaviour) :
      Step cluster (cluster.behaving behaviour)
  /-- The record of calls is dropped. -/
  | forget (cluster : MemoryCluster) : Step cluster { cluster with history := [] }

/-- The clusters that can come about. -/
inductive Reachable : MemoryCluster → Prop where
  | empty (phase : Option String) : Reachable (.empty phase)
  | step {cluster next : MemoryCluster} (reached : Reachable cluster) (step : Step cluster next) :
      Reachable next

variable {cluster next : MemoryCluster}

open ClusterObjects (Filed)

/-- An operation keeps the objects under their names, however it ends. -/
theorem filed_of_keeps {α : Type} {work : Session MemoryCluster α}
    (keeps : Keeps (Under cluster.setting Filed) work fun _ => Under cluster.setting Filed)
    (filed : cluster.objects.Filed) : (work cluster).2.objects.Filed :=
  (keeps.after ⟨rfl, filed⟩).2

/-- Whatever happens to a cluster, its objects stay under their names. -/
theorem Step.filed (step : Step cluster next) (filed : cluster.objects.Filed) :
    next.objects.Filed := by
  have stopped : Interruptible cluster.behaviour Filed fun _ => Filed :=
    fun _ _ _ _ filed => filed
  cases step with
  | listDeployments selector =>
    exact filed_of_keeps (listDeployments_ensures stopped fun _ filed => filed) filed
  | createDeployment deployment =>
    exact filed_of_keeps (createDeployment_ensures stopped (fun _ _ filed _ => filed)
      fun _ filed _ => filed.storeDeployment _ _) filed
  | replaceDeployment deployment =>
    exact filed_of_keeps (replaceDeployment_ensures stopped (fun _ _ filed _ => filed)
      fun _ _ filed _ => filed.storeDeployment _ _) filed
  | deleteDeployment name =>
    rw [objects_deleteDeployment]
    exact { filed with deployments := filed.deployments.ite_filterKeys _ _ }
  | getService name =>
    exact filed_of_keeps (getService_ensures stopped fun _ filed => filed) filed
  | createService service =>
    exact filed_of_keeps (createService_ensures stopped (fun _ _ filed _ => filed)
      fun _ filed _ => filed.withService _) filed
  | replaceService service =>
    exact filed_of_keeps (replaceService_ensures stopped (fun _ _ filed _ => filed)
      fun _ _ filed _ _ => filed.storeService _) filed
  | deleteService name =>
    rw [objects_deleteService]
    exact { filed with services := filed.services.ite_filterKeys _ _ }
  | getClaim name =>
    exact filed_of_keeps (getClaim_ensures stopped fun _ filed => filed) filed
  | createClaim claim =>
    exact filed_of_keeps (createClaim_ensures stopped (fun _ _ filed _ => filed)
      fun _ filed _ => filed.withClaim _) filed
  | listPods selector =>
    exact filed_of_keeps (listPods_ensures stopped fun _ filed => filed) filed
  | deletePod name =>
    rw [objects_deletePod]
    exact { filed with pods := filed.pods.ite_filterKeys _ _ }
  | watchPods selector =>
    exact filed_of_keeps (watchPods_ensures stopped fun _ filed => { filed with }) filed
  | exec pod container program =>
    rw [exec_eq]
    exact filed
  | closeWatch number => exact { filed with }
  | addPod pod => exact filed.publishPod pod
  | behave behaviour => exact filed
  | forget => exact filed

/-- On every cluster that can come about, objects are stored under their names. -/
theorem Reachable.filed (reached : Reachable cluster) : cluster.objects.Filed := by
  induction reached with
  | empty phase => exact .empty
  | step _ step ih => exact step.filed ih

end MemoryCluster

end DevfilePush
