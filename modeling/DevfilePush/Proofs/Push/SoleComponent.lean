import DevfilePush.Proofs.Cluster.Selector
import DevfilePush.Proofs.Cluster.Trials
import DevfilePush.Proofs.Push.Reconcile

/-!
A cluster with a single component.

On a cluster that nothing but one component has been written to, reconciling finds the
component's Deployment whenever there is one, and no Service ever stands alone, however
often and however far reconciling has got before (`SoleComponent`). This is the invariant
that every attempt keeps, whether it succeeds or fails.
-/

namespace DevfilePush

open Kubernetes (Deployment Pod Service)

/-- Nothing is on the cluster but the component `name`, perhaps half of it. -/
structure SoleComponent (name : String) (objects : ClusterObjects) : Prop where
  deployment : ∀ key stored, objects.deployments.get? key = some stored →
    key = name ∧ stored.metadata.name = some name ∧
      stored.metadata.labels = some (componentLabels name)
  /-- The Service comes after the Deployment. -/
  service : objects.services.get? name ≠ none → objects.deployments.get? name ≠ none
  /-- A stored Service has an address. -/
  address : ∀ live, objects.services.get? name = some live → live.clusterIP?.isSome = true
  pod : ∀ key ∈ objects.pods.keys, ClusterObjects.isPodOf name key = true

namespace SoleComponent

variable {desired : DesiredComponent} {before after : ClusterObjects} {phase : Option String}

theorem empty (name : String) : SoleComponent name .empty := by
  constructor
  case deployment =>
    intro key stored isStored
    cases isStored
  case service =>
    intro isStored
    exact absurd rfl isStored
  case address =>
    intro live isLive
    cases isLive
  case pod =>
    intro key mem
    cases mem

/-! ### The probe -/

/-- Where no Deployment is stored, none is found. -/
theorem live?_eq_none (sole : SoleComponent desired.name before)
    (absent : before.deployments.get? desired.name = none) : desired.live? before = none := by
  rw [DesiredComponent.live?, List.find?_eq_none]
  intro deployment mem
  obtain ⟨isValue, -⟩ := List.mem_filter.mp mem
  obtain ⟨key, isStored⟩ := OrderedMap.exists_get?_of_mem_values isValue
  obtain ⟨rfl, -⟩ := sole.deployment key deployment isStored
  cases absent.symm.trans isStored

/-- The Deployment that is found is the one that is stored. -/
theorem live?_eq (sole : SoleComponent desired.name before) (rendered : desired.IsRendered)
    (plain : PlainName desired.name) :
    desired.live? before = before.deployments.get? desired.name := by
  cases isStored : before.deployments.get? desired.name with
  | none => exact sole.live?_eq_none isStored
  | some stored =>
    obtain ⟨-, isNamed, isLabelled⟩ := sole.deployment _ stored isStored
    have isMatch : matchesSelector stored.metadata.labels desired.selector = true := by
      rw [isLabelled, DesiredComponent.selector, rendered.labels_eq]
      exact plain.matchesSelector
    refine DesiredComponent.live?_eq_some ?_ isStored isNamed isMatch
    refine OrderedMap.keyedBy_of_get? fun key other isOther => ?_
    obtain ⟨rfl, otherNamed, -⟩ := sole.deployment key other isOther
    rw [Kubernetes.Metadata.nameOrEmpty, otherNamed, Option.getD_some]

/-! ### What keeps it -/

theorem isPodOf_scheduled (owner : String) (number : Nat) :
    ClusterObjects.isPodOf owner (owner ++ "-" ++ toString number) = true := by
  rw [ClusterObjects.isPodOf, List.isPrefixOf_iff_prefix,
    String.toList_append (s := owner ++ "-")]
  exact List.prefix_append _ _

/-- Scheduling a pod for the component leaves only pods of the component. -/
theorem pod_schedulePod (sole : SoleComponent desired.name before)
    (rendered : desired.IsRendered) :
    ∀ key ∈ (before.schedulePod phase desired.deployment).pods.keys,
      ClusterObjects.isPodOf desired.name key = true := by
  cases phase with
  | none => exact sole.pod
  | some phase =>
    intro key mem
    rw [ClusterObjects.schedulePod_pods, rendered.deployment_nameOrEmpty,
      OrderedMap.mem_keys_iff, OrderedMap.contains, OrderedMap.get?_insert] at mem
    split at mem
    · rename_i same
      rw [same]
      exact isPodOf_scheduled desired.name _
    · rw [OrderedMap.get?_filterKeys] at mem
      split at mem
      · exact sole.pod key (OrderedMap.mem_keys_iff.mpr mem)
      · cases mem

/-- Once the Deployment is written, a Service may be there or not. -/
theorem of_deployed (sole : SoleComponent desired.name before) (rendered : desired.IsRendered)
    (deployed : Deployed phase desired before after)
    (address : ∀ live, after.services.get? desired.name = some live →
      live.clusterIP?.isSome = true) : SoleComponent desired.name after := by
  obtain ⟨stored, isNamed, isLabelled, -, deployments⟩ := deployed.deployments
  constructor
  case deployment =>
    intro key other isOther
    rw [deployments, OrderedMap.get?_insert] at isOther
    split at isOther
    · rename_i same
      cases isOther
      rw [isLabelled, rendered.labels_eq]
      exact ⟨same, isNamed, rfl⟩
    · exact sole.deployment key other isOther
  case service =>
    intro _ absent
    rw [deployments, OrderedMap.get?_insert_self] at absent
    cases absent
  case address => exact address
  case pod =>
    rw [deployed.pods]
    exact sole.pod_schedulePod rendered

/-- However the Service has been settled, it has an address if there is one. -/
theorem address_of_settled (sole : SoleComponent desired.name before)
    (settled : ServiceSettled desired before after) :
    ∀ live, after.services.get? desired.name = some live → live.clusterIP?.isSome = true := by
  intro live isLive
  unfold ServiceSettled at settled
  split at settled
  · obtain ⟨stored, services, -, address⟩ := settled
    rw [services, OrderedMap.get?_insert_self] at isLive
    cases isLive
    split at address
    · rename_i previous isPrevious
      rw [address]
      exact sole.address previous isPrevious
    · exact address
  · split at settled
    · rw [settled, OrderedMap.get?_erase, if_pos rfl] at isLive
      cases isLive
    · rw [settled] at isLive
      exact sole.address live isLive

/-- However far reconciling gets, the component stays alone. -/
theorem of_progress (sole : SoleComponent desired.name before) (rendered : desired.IsRendered)
    (progress : Progress phase desired before after) : SoleComponent desired.name after := by
  cases progress with
  | claims added =>
    constructor
    case deployment => rw [added.deployments]; exact sole.deployment
    case service => rw [added.services, added.deployments]; exact sole.service
    case address => rw [added.services]; exact sole.address
    case pod => rw [added.pods]; exact sole.pod
  | deployment deployed services =>
    refine sole.of_deployed rendered deployed ?_
    rw [services]
    exact sole.address
  | service deployed settled =>
    exact sole.of_deployed rendered deployed (sole.address_of_settled settled)

end SoleComponent

namespace MemoryCluster

/-- A running pod of the component that is the only pod is the one that is waited for. -/
theorem outcome_of_only_pod {desired : DesiredComponent} (rendered : desired.IsRendered)
    (plain : PlainName desired.name) {timeout : Duration} {objects : ClusterObjects}
    {number : UInt64}
    (only : objects.pods.values =
      [ClusterObjects.scheduledPod desired.deployment Pod.runningPhase number]) :
    ((watchOf objects desired.selector).outcome desired.selector timeout).2 =
      .ok (ClusterObjects.scheduledPod desired.deployment Pod.runningPhase number) := by
  refine outcome_of_running only ?_ rfl rfl
  change matchesSelector (some desired.deployment.templateLabels) desired.selector = true
  rw [rendered.templateLabels_eq, DesiredComponent.selector, rendered.labels_eq]
  exact plain.matchesSelector

/-- However reconciling ends, it has got to one of its stages. -/
theorem reconcile_progress {desired : DesiredComponent} (rendered : desired.IsRendered)
    (timeout : Duration) (cluster : MemoryCluster) :
    Progress cluster.behaviour.scheduledPodPhase desired cluster.objects
      (reconcile client timeout desired cluster).2.objects := by
  cases run : reconcile client timeout desired cluster with
  | mk result after =>
    cases result with
    | ok outcome =>
      have reconciled := reconciled_of_run rendered run
      exact .service reconciled.deployed reconciled.settled
    | error failure => exact (interrupted_of_run rendered run).progress

/-- Reconciling the only component of a cluster leaves it the only one. -/
theorem sole_reconcile {desired : DesiredComponent} (rendered : desired.IsRendered)
    (timeout : Duration) {cluster : MemoryCluster}
    (sole : SoleComponent desired.name cluster.objects) :
    SoleComponent desired.name (reconcile client timeout desired cluster).2.objects :=
  sole.of_progress rendered (reconcile_progress rendered timeout cluster)

end MemoryCluster

end DevfilePush
