import DevfilePush.Proofs.Cluster.Reachable
import DevfilePush.Proofs.Cluster.Selector
import DevfilePush.Push.Delete
import DevfilePush.Synthesis.Desired

/-!
What a deletion takes away.

A deletion looks for pods with the component's selector, and does nothing if it finds none.
Otherwise it tries all its steps, so what it leaves is known from the steps that fail
(`objects_deleteComponent`). It never takes away another Deployment or Service, and the pods
that it takes away belong to the component that its selector asks for
(`deleteComponent_confined`). For a name with a comma that is another component
(`not_confined_of_comma`).
-/

namespace DevfilePush

open Kubernetes (Pod)

namespace ClusterObjects

/-- The pods that a selector finds. -/
def podsMatching (objects : ClusterObjects) (selector : String) : List Pod :=
  objects.pods.values.filter fun pod => matchesSelector pod.metadata.labels selector

/-- The objects without a component that has the given pods, as far as the operations that
delete its objects are not made to fail. -/
def cleared (objects : ClusterObjects) (behaviour : ClusterBehaviour) (name : String)
    (pods : List Pod) : ClusterObjects :=
  { objects with
    deployments :=
      if behaviour.fails .deleteDeployment then objects.deployments
      else objects.deployments.erase name
    services :=
      if behaviour.fails .deleteService then objects.services else objects.services.erase name
    pods :=
      if behaviour.fails .deletePod then objects.pods
      else objects.pods.filterKeys fun key => key ∉ pods.map (·.metadata.nameOrEmpty) }

variable {objects : ClusterObjects} {behaviour : ClusterBehaviour} {name selector : String}

theorem deployments_cleared {pods : List Pod} :
    (objects.cleared behaviour name pods).deployments =
      if behaviour.fails .deleteDeployment then objects.deployments
      else objects.deployments.erase name := rfl

theorem services_cleared {pods : List Pod} :
    (objects.cleared behaviour name pods).services =
      if behaviour.fails .deleteService then objects.services
      else objects.services.erase name := rfl

theorem pods_cleared {pods : List Pod} :
    (objects.cleared behaviour name pods).pods =
      if behaviour.fails .deletePod then objects.pods
      else objects.pods.filterKeys fun key => key ∉ pods.map (·.metadata.nameOrEmpty) := rfl

/-- What is missing of `before` was called `name` or was a pod of the component `owner`, and
everything else is as it was. -/
structure Confined (name owner : String) (before after : ClusterObjects) : Prop where
  deployments : before.deployments.LosesOnly (fun key _ => key = name) after.deployments
  services : before.services.LosesOnly (fun key _ => key = name) after.services
  pods : before.pods.LosesOnly
    (fun _ pod => (componentLabels owner).IncludedIn pod.metadata.labels) after.pods
  others : after =
    { before with
      deployments := after.deployments
      services := after.services
      pods := after.pods }

theorem Confined.refl (owner : String) : Confined name owner objects objects :=
  ⟨.refl, .refl, .refl, rfl⟩

/-- The pods that a selector finds are found again by their names. -/
theorem Filed.mem_podsMatching (filed : objects.Filed) {key : String} {pod : Pod}
    (held : objects.pods.get? key = some pod) :
    key ∈ (objects.podsMatching selector).map (·.metadata.nameOrEmpty) ↔
      matchesSelector pod.metadata.labels selector = true := by
  constructor
  · intro mem
    obtain ⟨found, isFound, rfl⟩ := List.mem_map.mp mem
    obtain ⟨isValue, isMatch⟩ := List.mem_filter.mp isFound
    cases (filed.pods.get?_of_mem_values isValue).symm.trans held
    exact isMatch
  · intro isMatch
    have isFound : pod ∈ objects.podsMatching selector :=
      List.mem_filter.mpr ⟨OrderedMap.mem_values_of_get? held, isMatch⟩
    exact List.mem_map.mpr ⟨pod, isFound, filed.pods.key_eq held⟩

/-- The pods that are cleared away with a component are those that its selector finds. -/
theorem Filed.losesOnly_cleared (filed : objects.Filed) :
    objects.pods.LosesOnly
      (fun _ pod => matchesSelector pod.metadata.labels selector = true)
      (objects.cleared behaviour name (objects.podsMatching selector)).pods := by
  rw [pods_cleared]
  split
  · exact .refl
  · refine ⟨_, rfl, fun key pod held gone => ?_⟩
    exact (filed.mem_podsMatching held).mp (by simpa using gone)

/-- Clearing away what the selector of a component finds is confined to that component. -/
theorem Filed.confined_cleared (filed : objects.Filed) :
    Confined name (requestedName name) objects
      (objects.cleared behaviour name
        (objects.podsMatching (labelSelector (componentLabels name)))) := by
  constructor
  case deployments =>
    rw [deployments_cleared]
    exact .ite_erase
  case services =>
    rw [services_cleared]
    exact .ite_erase
  case pods =>
    exact filed.losesOnly_cleared.imp fun _ _ isMatch => includedIn_of_matchesSelector isMatch
  case others => rfl

end ClusterObjects

namespace MemoryCluster

variable {cluster : MemoryCluster}

/-! ### What is left -/

theorem after_deletePods_cons (pod : Pod) (rest : List Pod) :
    (deletePods client (pod :: rest) cluster).2 =
      (deletePods client rest (client.deletePod pod.metadata.nameOrEmpty cluster).2).2 := rfl

theorem behaviour_deletePod (name : String) :
    (client.deletePod name cluster).2.behaviour = cluster.behaviour := by
  rw [client_deletePod]
  exact behaviour_transact

/-- The pods go one after another, and none of them matters to the others. -/
theorem objects_deletePods (pods : List Pod) :
    (deletePods client pods cluster).2.objects =
      { cluster.objects with
        pods :=
          if cluster.behaviour.fails .deletePod then cluster.objects.pods
          else cluster.objects.pods.filterKeys fun key =>
            key ∉ pods.map (·.metadata.nameOrEmpty) } := by
  induction pods generalizing cluster with
  | nil =>
    change cluster.objects = _
    simp [OrderedMap.filterKeys_eq_self]
  | cons pod rest ih =>
    rw [after_deletePods_cons, ih, behaviour_deletePod, objects_deletePod]
    cases cluster.behaviour.fails .deletePod with
    | true => rfl
    | false => simp [OrderedMap.erase, OrderedMap.filterKeys_filterKeys]

theorem after_deleteObjects (name : String) (pods : List Pod) :
    (deleteObjects client name pods cluster).2 =
      (deletePods client pods
        (client.deleteService name (client.deleteDeployment name cluster).2).2).2 := rfl

theorem objects_deleteObjects (name : String) (pods : List Pod) :
    (deleteObjects client name pods cluster).2.objects =
      cluster.objects.cleared cluster.behaviour name pods := by
  have first : (client.deleteDeployment name cluster).2.behaviour = cluster.behaviour := by
    rw [client_deleteDeployment]
    exact behaviour_transact
  have second : (client.deleteService name (client.deleteDeployment name cluster).2).2.behaviour =
      cluster.behaviour := by
    rw [client_deleteService]
    exact behaviour_transact.trans first
  rw [after_deleteObjects, objects_deletePods, second, objects_deleteService, first,
    objects_deleteDeployment]
  rfl

/-- Listing pods shows those that the selector finds, unless it is made to fail, and writes
nothing. -/
theorem listPods_eq {selector : String} :
    client.listPods selector cluster =
      (match cluster.behaviour.failures.get? .listPods with
        | some message => .error (.cluster (.injected message))
        | none => .ok (cluster.objects.podsMatching selector),
        cluster.record ⟨.listPods, selector, []⟩) := by
  simp only [client, inspect_eq, transact_run, injected?]
  cases cluster.behaviour.failures.get? .listPods <;> rfl

/-- A deletion that gets to see pods goes on to its steps, and any other ends there. -/
theorem after_deleteComponent (name : String) (labels : Labels) :
    let listed := cluster.record ⟨.listPods, labelSelector labels, []⟩
    let found := cluster.objects.podsMatching (labelSelector labels)
    (deleteComponent client name labels cluster).2 =
      if cluster.behaviour.fails .listPods || found.isEmpty then listed
      else (deleteObjects client name found listed).2 := by
  intro listed found
  rw [deleteComponent, Session.bind_run, listPods_eq]
  cases injected : cluster.behaviour.failures.get? .listPods with
  | some message =>
    rw [ClusterBehaviour.fails_of_get? injected]
    rfl
  | none =>
    rw [ClusterBehaviour.fails_eq_false_iff.mpr injected]
    have isFound : cluster.objects.podsMatching (labelSelector labels) = found := rfl
    rw [isFound]
    cases found with
    | nil => rfl
    | cons pod rest =>
      have isSome : ¬ (pod :: rest).isEmpty = true := Bool.false_ne_true
      dsimp only
      rw [if_neg isSome, Session.bind_run, Session.liftM_run]
      -- Reporting the failures does nothing to the cluster.
      cases (deleteObjects client name (pod :: rest) listed).1 <;> rfl

/-- What a deletion leaves. -/
theorem objects_deleteComponent (cluster : MemoryCluster) (name : String) (labels : Labels) :
    let found := cluster.objects.podsMatching (labelSelector labels)
    (deleteComponent client name labels cluster).2.objects =
      if cluster.behaviour.fails .listPods || found.isEmpty then cluster.objects
      else cluster.objects.cleared cluster.behaviour name found := by
  intro found
  rw [after_deleteComponent]
  split
  · rfl
  · exact objects_deleteObjects name _

/-! ### What is spared -/

open ClusterObjects (Confined)

/-- A deletion takes away nothing that does not belong to the component that it is about. -/
theorem deleteComponent_confined (reached : cluster.Reachable) (name : String) :
    let after := (deleteComponent client name (componentLabels name) cluster).2.objects
    Confined name (requestedName name) cluster.objects after ∧
      (PlainName name → Confined name name cluster.objects after) := by
  intro after
  have confined : Confined name (requestedName name) cluster.objects after := by
    simp only [after, objects_deleteComponent]
    split
    · exact .refl _
    · exact reached.filed.confined_cleared
  refine ⟨confined, fun plain => ?_⟩
  rwa [plain.requestedName_eq] at confined

/-- A cluster that holds nothing but the Deployment, the Service and the pod of one
component. -/
def holding (name : String) : MemoryCluster :=
  let deployed := (client.createDeployment (buildDeployment name (componentLabels name) [] [] [])
    (empty (some Pod.runningPhase))).2
  (client.createService { metadata := .named name (componentLabels name) } deployed).2

theorem reachable_holding (name : String) : (holding name).Reachable :=
  .step (.step (.empty _) (.createDeployment _ _)) (.createService _ _)

/-- The pod of a component goes with the component. -/
theorem deleteComponent_confined_sample :
    let after := (deleteComponent client "web" (componentLabels "web") (holding "web")).2.objects
    (holding "web").Reachable ∧ PlainName "web" ∧ after.pods.get? "web-1" = none ∧
      Confined "web" "web" (holding "web").objects after := by
  have plain : PlainName "web" := ⟨by decide, by decide⟩
  exact ⟨reachable_holding "web", plain, by decide +kernel,
    (deleteComponent_confined (reachable_holding "web") "web").2 plain⟩

/-- The same pod goes when the component "web," is deleted. -/
theorem not_confined_of_comma :
    ¬ ∀ (cluster : MemoryCluster) (name : String), cluster.Reachable →
      Confined name name cluster.objects
        (deleteComponent client name (componentLabels name) cluster).2.objects := by
  intro claim
  have confined := claim (holding "web") "web," (reachable_holding "web")
  have held : (holding "web").objects.pods.get? "web-1" =
      some (Pod.named "web-1" (componentLabels "web") Pod.runningPhase) := by decide +kernel
  let after := (deleteComponent client "web," (componentLabels "web,") (holding "web")).2.objects
  have gone : after.pods.get? "web-1" = none := by decide +kernel
  have carried := confined.pods.lost_of_get? held gone
  obtain ⟨-, isNamed⟩ := includedIn_componentLabels.mp carried
  exact absurd isNamed (by decide +kernel)

end MemoryCluster

end DevfilePush
