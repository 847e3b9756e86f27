import DevfilePush.Proofs.Cluster.Reachable
import DevfilePush.Proofs.Cluster.Request

/-!
Actions on a cluster.

Everything that can happen to a cluster in memory is an action, and one action has one outcome
(`step_iff_exists_act`). So a run of a cluster is given by where it begins and by the list of
the actions (`reachable_iff_exists_after`).
-/

namespace DevfilePush

open Kubernetes (Pod)

/-- Something that can be done to a cluster. -/
inductive ClusterAction where
  /-- A client is asked for something. -/
  | ask (request : ClientRequest)
  | closeWatch (number : Nat)
  | addPod (pod : Pod)
  | behave (behaviour : ClusterBehaviour)
  /-- The record of calls is dropped. -/
  | forget
  deriving DecidableEq

namespace MemoryCluster

/-- The cluster after an action. -/
def act (cluster : MemoryCluster) : ClusterAction → MemoryCluster
  | .ask request => (client.ask request cluster).2
  | .closeWatch number => { cluster with objects := cluster.objects.closeWatch number }
  | .addPod pod => cluster.addPod pod
  | .behave behaviour => cluster.behaving behaviour
  | .forget => { cluster with history := [] }

/-- The cluster after some actions. -/
def after (cluster : MemoryCluster) (actions : List ClusterAction) : MemoryCluster :=
  actions.foldl act cluster

variable {cluster next : MemoryCluster}

/-- A request to the client is a step, whatever it asks for. -/
theorem step_ask (request : ClientRequest) : Step cluster (client.ask request cluster).2 := by
  cases request with
  | listDeployments selector => exact .listDeployments cluster selector
  | createDeployment deployment => exact .createDeployment cluster deployment
  | replaceDeployment deployment => exact .replaceDeployment cluster deployment
  | deleteDeployment name => exact .deleteDeployment cluster name
  | getService name => exact .getService cluster name
  | createService service => exact .createService cluster service
  | replaceService service => exact .replaceService cluster service
  | deleteService name => exact .deleteService cluster name
  | getClaim name => exact .getClaim cluster name
  | createClaim claim => exact .createClaim cluster claim
  | listPods selector => exact .listPods cluster selector
  | deletePod name => exact .deletePod cluster name
  | watchPods selector => exact .watchPods cluster selector
  | exec pod container program =>
    change Step cluster (client.execOrFail pod container program cluster).2
    rw [execOrFail_run]
    exact .exec cluster pod container program

/-- Every step is brought about by one of the actions. -/
theorem Step.exists_act (step : Step cluster next) : ∃ action, next = cluster.act action := by
  cases step with
  | listDeployments selector => exact ⟨.ask (.listDeployments selector), rfl⟩
  | createDeployment deployment => exact ⟨.ask (.createDeployment deployment), rfl⟩
  | replaceDeployment deployment => exact ⟨.ask (.replaceDeployment deployment), rfl⟩
  | deleteDeployment name => exact ⟨.ask (.deleteDeployment name), rfl⟩
  | getService name => exact ⟨.ask (.getService name), rfl⟩
  | createService service => exact ⟨.ask (.createService service), rfl⟩
  | replaceService service => exact ⟨.ask (.replaceService service), rfl⟩
  | deleteService name => exact ⟨.ask (.deleteService name), rfl⟩
  | getClaim name => exact ⟨.ask (.getClaim name), rfl⟩
  | createClaim claim => exact ⟨.ask (.createClaim claim), rfl⟩
  | listPods selector => exact ⟨.ask (.listPods selector), rfl⟩
  | deletePod name => exact ⟨.ask (.deletePod name), rfl⟩
  | watchPods selector => exact ⟨.ask (.watchPods selector), rfl⟩
  | exec pod container program =>
    refine ⟨.ask (.exec pod container program), ?_⟩
    change _ = (client.execOrFail pod container program cluster).2
    rw [execOrFail_run]
  | closeWatch number => exact ⟨.closeWatch number, rfl⟩
  | addPod pod => exact ⟨.addPod pod, rfl⟩
  | behave behaviour => exact ⟨.behave behaviour, rfl⟩
  | forget => exact ⟨.forget, rfl⟩

/-- The steps of a cluster are the actions on it. -/
theorem step_iff_exists_act : Step cluster next ↔ ∃ action, next = cluster.act action := by
  constructor
  · exact Step.exists_act
  · rintro ⟨action, rfl⟩
    cases action with
    | ask request => exact step_ask request
    | closeWatch number => exact .closeWatch cluster number
    | addPod pod => exact .addPod cluster pod
    | behave behaviour => exact .behave cluster behaviour
    | forget => exact .forget cluster

theorem Reachable.act (reached : cluster.Reachable) (action : ClusterAction) :
    (cluster.act action).Reachable :=
  reached.step (step_iff_exists_act.mpr ⟨action, rfl⟩)

/-- A run from a cluster that can come about leads to one that can. -/
theorem Reachable.after (reached : cluster.Reachable) (actions : List ClusterAction) :
    (cluster.after actions).Reachable := by
  induction actions generalizing cluster with
  | nil => exact reached
  | cons action rest ih => exact ih (reached.act action)

theorem after_append (earlier later : List ClusterAction) :
    cluster.after (earlier ++ later) = (cluster.after earlier).after later :=
  List.foldl_append

/-- The clusters that can come about are those that runs lead to. -/
theorem reachable_iff_exists_after :
    cluster.Reachable ↔ ∃ phase actions, cluster = (empty phase).after actions := by
  constructor
  · intro reached
    induction reached with
    | empty phase => exact ⟨phase, [], rfl⟩
    | step reached step ih =>
      obtain ⟨phase, actions, rfl⟩ := ih
      obtain ⟨action, rfl⟩ := step.exists_act
      refine ⟨phase, actions ++ [action], ?_⟩
      rw [after_append]
      rfl
  · rintro ⟨phase, actions, rfl⟩
    exact (Reachable.empty phase).after actions

end MemoryCluster

end DevfilePush
