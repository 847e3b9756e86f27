import DevfilePush.Proofs.Push.Deletion

/-!
Deleting a component once more.

A deletion that failed can be tried again as long as there are pods to be found, for it does
nothing without them. So the second attempt makes up for everything that went wrong in the
first one, unless that one has taken the pods away: then the Deployment and the Service are
left for good when it was their own deletion that failed (`deletion_retried`).
-/

namespace DevfilePush

open Kubernetes (Pod)

/-- A deletion takes the pods away, but not the object that `operation` would delete. -/
def ClusterBehaviour.Strands (behaviour : ClusterBehaviour) (operation : Operation) : Prop :=
  behaviour.fails .listPods = false ∧ behaviour.fails .deletePod = false ∧
    behaviour.fails operation = true

namespace ClusterObjects

variable {objects : ClusterObjects} {behaviour : ClusterBehaviour} {name selector : String}

/-- Neither a Deployment nor a Service called `name` is there, nor a pod that the selector
finds. -/
structure Rid (name selector : String) (objects : ClusterObjects) : Prop where
  deployment : objects.deployments.get? name = none
  service : objects.services.get? name = none
  pods : objects.podsMatching selector = []

theorem Filed.cleared (filed : objects.Filed) (pods : List Pod) :
    (objects.cleared behaviour name pods).Filed :=
  { filed with
    deployments := filed.deployments.ite_filterKeys _ _
    services := filed.services.ite_filterKeys _ _
    pods := filed.pods.ite_filterKeys _ _ }

theorem get?_deployments_cleared {pods : List Pod} :
    (objects.cleared behaviour name pods).deployments.get? name =
      if behaviour.fails .deleteDeployment then objects.deployments.get? name else none := by
  rw [deployments_cleared, OrderedMap.get?_ite_erase]

theorem get?_services_cleared {pods : List Pod} :
    (objects.cleared behaviour name pods).services.get? name =
      if behaviour.fails .deleteService then objects.services.get? name else none := by
  rw [services_cleared, OrderedMap.get?_ite_erase]

/-- When the pods that a selector finds have been cleared away, it finds no others. -/
theorem Filed.podsMatching_cleared (filed : objects.Filed) :
    (objects.cleared behaviour name (objects.podsMatching selector)).podsMatching selector =
      if behaviour.fails .deletePod then objects.podsMatching selector else [] := by
  rw [podsMatching, pods_cleared]
  split
  · rfl
  · refine List.filter_eq_nil_iff.mpr fun pod mem isMatch => ?_
    obtain ⟨key, isKept⟩ := OrderedMap.exists_get?_of_mem_values mem
    rw [OrderedMap.get?_filterKeys] at isKept
    split at isKept
    · rename_i spared
      exact of_decide_eq_true spared ((filed.mem_podsMatching isKept).mpr isMatch)
    · cases isKept

/-- A selector finds the pods that carry the labels it was written for. -/
theorem podsMatching_ne_nil {labels : Labels}
    (selectable : ∀ label ∈ labels.entries, Selectable label)
    (carried : ∃ pod ∈ objects.pods.values, labels.IncludedIn pod.metadata.labels) :
    objects.podsMatching (labelSelector labels) ≠ [] := by
  obtain ⟨pod, isValue, isCarried⟩ := carried
  have isFound : pod ∈ objects.podsMatching (labelSelector labels) :=
    List.mem_filter.mpr ⟨isValue, (matchesSelector_labelSelector selectable).mpr isCarried⟩
  exact List.ne_nil_of_mem isFound

end ClusterObjects

namespace MemoryCluster

open ClusterObjects (Rid)

variable {cluster : MemoryCluster} {name : String} {labels : Labels}
  {behaviour first second : ClusterBehaviour}

/-- An attempt to delete a component. -/
def deletionTrial (name : String) (labels : Labels) (behaviour : ClusterBehaviour) : Trial Unit :=
  ⟨behaviour, deleteComponent client name labels⟩

/-- What an attempt leaves that finds pods, if it can look for them. -/
theorem objects_deletionTrial (found : cluster.objects.podsMatching (labelSelector labels) ≠ []) :
    (cluster.run (deletionTrial name labels behaviour)).after.objects =
      if behaviour.fails .listPods then cluster.objects
      else cluster.objects.cleared behaviour name
        (cluster.objects.podsMatching (labelSelector labels)) := by
  refine (objects_deleteComponent (cluster.behaving behaviour) name labels).trans ?_
  simp [behaving, List.isEmpty_eq_false_iff.mpr found]

/-- An attempt that finds no pods does nothing. -/
theorem objects_deletionTrial_of_none
    (none : cluster.objects.podsMatching (labelSelector labels) = []) :
    (cluster.run (deletionTrial name labels behaviour)).after.objects = cluster.objects := by
  refine (objects_deleteComponent (cluster.behaving behaviour) name labels).trans ?_
  simp [behaving, none]

/-- An attempt that finds pods, and that nothing disturbs, deletes everything. -/
theorem rid_of_calm (filed : cluster.objects.Filed) (calm : behaviour.IsCalm)
    (found : cluster.objects.podsMatching (labelSelector labels) ≠ []) :
    Rid name (labelSelector labels)
      (cluster.run (deletionTrial name labels behaviour)).after.objects := by
  rw [objects_deletionTrial found, calm.fails_eq_false, if_neg Bool.false_ne_true]
  constructor
  case deployment =>
    rw [ClusterObjects.get?_deployments_cleared, calm.fails_eq_false, if_neg Bool.false_ne_true]
  case service =>
    rw [ClusterObjects.get?_services_cleared, calm.fails_eq_false, if_neg Bool.false_ne_true]
  case pods => rw [filed.podsMatching_cleared, calm.fails_eq_false, if_neg Bool.false_ne_true]

/-- An attempt that cannot look for the pods or cannot delete them leaves them all. -/
theorem podsMatching_deletionTrial (filed : cluster.objects.Filed)
    (found : cluster.objects.podsMatching (labelSelector labels) ≠ []) :
    (cluster.run (deletionTrial name labels behaviour)).after.objects.podsMatching
        (labelSelector labels) =
      if behaviour.fails .listPods || behaviour.fails .deletePod then
        cluster.objects.podsMatching (labelSelector labels)
      else [] := by
  rw [objects_deletionTrial found]
  cases behaviour.fails .listPods with
  | true => rfl
  | false =>
    rw [if_neg Bool.false_ne_true, filed.podsMatching_cleared, Bool.false_or]

/-- What is left after a first attempt that may be disturbed and a second one that is not. -/
theorem deletion_retried (reached : cluster.Reachable) (calm : second.IsCalm)
    (found : cluster.objects.podsMatching (labelSelector labels) ≠ []) :
    let after := (cluster.afterAll
      [deletionTrial name labels first, deletionTrial name labels second]).objects
    after.podsMatching (labelSelector labels) = [] ∧
      (after.deployments.get? name = none ↔
        cluster.objects.deployments.get? name = none ∨ ¬ first.Strands .deleteDeployment) ∧
      (after.services.get? name = none ↔
        cluster.objects.services.get? name = none ∨ ¬ first.Strands .deleteService) := by
  intro after
  let between := (cluster.run (deletionTrial name labels first)).after
  have isAfter : after =
      (between.run (deletionTrial name labels second)).after.objects := rfl
  have podsBetween : between.objects.podsMatching (labelSelector labels) =
      if first.fails .listPods || first.fails .deletePod then
        cluster.objects.podsMatching (labelSelector labels)
      else [] :=
    podsMatching_deletionTrial reached.filed found
  cases lists : first.fails .listPods || first.fails .deletePod with
  | true =>
    have stillFound : between.objects.podsMatching (labelSelector labels) ≠ [] := by
      rw [podsBetween, lists, if_pos rfl]
      exact found
    have filed : between.objects.Filed := by
      rw [objects_deletionTrial found]
      split
      · exact reached.filed
      · exact reached.filed.cleared _
    have rid : Rid name (labelSelector labels) after := rid_of_calm filed calm stillFound
    have unstranded : ∀ operation, ¬ first.Strands operation := by
      rintro operation ⟨works, deletes, -⟩
      rw [works, deletes] at lists
      cases lists
    simp [rid.pods, rid.deployment, rid.service, unstranded]
  | false =>
    have noneFound : between.objects.podsMatching (labelSelector labels) = [] := by
      rw [podsBetween, lists, if_neg Bool.false_ne_true]
    have same : after = between.objects := objects_deletionTrial_of_none noneFound
    obtain ⟨works, deletes⟩ := Bool.or_eq_false_iff.mp lists
    have cleared : after = cluster.objects.cleared first name
        (cluster.objects.podsMatching (labelSelector labels)) := by
      rw [same, objects_deletionTrial found, works, if_neg Bool.false_ne_true]
    have strands : ∀ operation, first.Strands operation ↔ first.fails operation = true :=
      fun operation => ⟨fun stranded => stranded.2.2, fun fails => ⟨works, deletes, fails⟩⟩
    refine ⟨same ▸ noneFound, ?_, ?_⟩
    · rw [cleared, ClusterObjects.get?_deployments_cleared, strands]
      cases first.fails .deleteDeployment <;> simp
    · rw [cleared, ClusterObjects.get?_services_cleared, strands]
      cases first.fails .deleteService <;> simp

/-! ### A component that holds out -/

/-- There is a pod of the component, found by its labels. -/
theorem carried_holding (name : String) :
    ∃ pod ∈ (holding name).objects.pods.values,
      (componentLabels name).IncludedIn pod.metadata.labels := by
  refine ⟨Pod.named (name ++ "-" ++ toString 1) (componentLabels name) Pod.runningPhase, ?_,
    componentLabels_includedIn name⟩
  exact List.mem_singleton_self _

/-- The Service of a component stays, and the Deployment does not, when only its deletion fails
at first. -/
theorem deletion_retried_sample :
    let found := (holding "web").objects.podsMatching (labelSelector (componentLabels "web"))
    let after := ((holding "web").afterAll
      [deletionTrial "web" (componentLabels "web") (.running (some .deleteService)),
        deletionTrial "web" (componentLabels "web") (.running none)]).objects
    (holding "web").Reachable ∧ (ClusterBehaviour.running none).IsCalm ∧ found ≠ [] ∧
      after.podsMatching (labelSelector (componentLabels "web")) = [] ∧
      after.deployments.get? "web" = none ∧ after.services.get? "web" ≠ none := by
  intro found after
  have plain : PlainName "web" := ⟨by decide, by decide⟩
  have isFound : found ≠ [] :=
    ClusterObjects.podsMatching_ne_nil plain.selectable (carried_holding "web")
  obtain ⟨pods, deployment, service⟩ := @deletion_retried (holding "web") "web"
    (componentLabels "web") (.running (some .deleteService)) (.running none)
    (reachable_holding "web") ClusterBehaviour.isCalm_running isFound
  refine ⟨reachable_holding "web", ClusterBehaviour.isCalm_running, isFound, pods, ?_, ?_⟩
  · exact deployment.mpr (.inr fun stranded => by cases stranded.2.2)
  · intro gone
    rcases service.mp gone with absent | unstranded
    · cases absent
    · exact unstranded ⟨rfl, rfl, rfl⟩

/-- Two attempts, the second one undisturbed, do not always get rid of a component: not of one
with a plain name, and not of every component even if the first attempt is undisturbed too. -/
theorem not_rid_of_retried :
    (¬ ∀ (cluster : MemoryCluster) (name : String) (first second : ClusterBehaviour),
      cluster.Reachable → PlainName name → cluster.objects.deployments.get? name ≠ none →
      (∃ pod ∈ cluster.objects.pods.values,
        (componentLabels name).IncludedIn pod.metadata.labels) →
      second.IsCalm →
      Rid name (labelSelector (componentLabels name))
        (cluster.afterAll [deletionTrial name (componentLabels name) first,
          deletionTrial name (componentLabels name) second]).objects) ∧
    ¬ ∀ (cluster : MemoryCluster) (name : String) (first second : ClusterBehaviour),
      cluster.Reachable → first.IsCalm → cluster.objects.deployments.get? name ≠ none →
      (∃ pod ∈ cluster.objects.pods.values,
        (componentLabels name).IncludedIn pod.metadata.labels) →
      second.IsCalm →
      Rid name (labelSelector (componentLabels name))
        (cluster.afterAll [deletionTrial name (componentLabels name) first,
          deletionTrial name (componentLabels name) second]).objects := by
  constructor
  · intro claim
    have rid := claim (holding "web") "web" (.running (some .deleteDeployment)) (.running none)
      (reachable_holding "web") ⟨by decide, by decide⟩ (by decide +kernel)
      (carried_holding "web") ClusterBehaviour.isCalm_running
    exact absurd rid.deployment (by decide +kernel)
  · intro claim
    -- The selector asks for a component called "a" and a label called "b".
    have rid := claim (holding "a,b") "a,b" (.running none) (.running none)
      (reachable_holding "a,b") ClusterBehaviour.isCalm_running (by decide +kernel)
      (carried_holding "a,b") ClusterBehaviour.isCalm_running
    exact absurd rid.deployment (by decide +kernel)

end MemoryCluster

end DevfilePush
