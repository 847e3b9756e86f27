import DevfilePush.Proofs.Naming.Label
import DevfilePush.Proofs.Push.Deletion
import DevfilePush.Proofs.Push.SoleComponent
import DevfilePush.Proofs.Text.Decimal

/-!
What reconciling one component does to another.

A Deployment's pods are known by their names alone: the name of the Deployment, a dash and a
number. Reconciling replaces every pod whose name begins like this, whatever comes after the
dash. So another component keeps its Deployment and its Service in any case, and keeps its
pods unless its own name begins with the name of the first and a dash (`reconcile_spares`).
-/

namespace DevfilePush

open Kubernetes (Deployment Pod)

namespace ClusterObjects

/-! ### Names of pods -/

/-- A prefix that ends with a dash does not reach into what has none. -/
theorem dash_prefix_iff {owner name digits : List Char} (free : '-' ∉ digits) :
    owner ++ ['-'] <+: name ++ '-' :: digits ↔ owner = name ∨ owner ++ ['-'] <+: name := by
  induction name generalizing owner with
  | nil =>
    cases owner with
    | nil => simp
    | cons c rest =>
      have reaches : ¬ rest ++ ['-'] <+: digits := fun isPrefix =>
        free (isPrefix.subset (List.mem_append_right _ List.mem_cons_self))
      simp [List.cons_prefix_cons, reaches]
  | cons d others ih =>
    cases owner with
    | nil => simp
    | cons c rest => simp [List.cons_prefix_cons, ih, and_or_left]

/-- Whose a scheduled pod is taken for. -/
theorem isPodOf_iff {owner name : String} {number : Nat} :
    isPodOf owner (name ++ "-" ++ toString number) = true ↔
      owner = name ∨ isPodOf owner name = true := by
  have dashed : owner.toList ++ ['-'] <+: name.toList ++ '-' :: (toString number).toList ↔
      owner.toList = name.toList ∨ owner.toList ++ ['-'] <+: name.toList :=
    dash_prefix_iff (Text.dash_notMem_toString number)
  simpa [isPodOf, List.isPrefixOf_iff_prefix, String.toList_append, String.toList_inj] using dashed

theorem length_lt_of_isPodOf {owner name : String} (taken : isPodOf owner name = true) :
    owner.length < name.length := by
  rw [isPodOf, List.isPrefixOf_iff_prefix] at taken
  have shorter := taken.length_le
  simp only [String.length_toList, String.length_append] at shorter
  have dash : "-".length = 1 := rfl
  omega

variable {objects : ClusterObjects} {phase : Option String} {deployment : Deployment}
  {owner other : String}

/-- What scheduling a pod for one Deployment does to the pods of another. -/
theorem get?_pods_schedulePod (isOwner : deployment.metadata.nameOrEmpty = owner)
    (distinct : other ≠ owner) (number : Nat) :
    (objects.schedulePod phase deployment).pods.get? (other ++ "-" ++ toString number) =
      if phase.isSome && isPodOf owner other then none
      else objects.pods.get? (other ++ "-" ++ toString number) := by
  cases phase with
  | none => rfl
  | some phase =>
    have another : other ++ "-" ++ toString number ≠
        owner ++ "-" ++ toString (objects.podCount + 1).toNat := by
      intro same
      -- Each of the two names would begin with the other one.
      have one := isPodOf_iff.mp (same ▸ isPodOf_iff.mpr (.inl rfl) :
        isPodOf owner (other ++ "-" ++ toString number) = true)
      have two := isPodOf_iff.mp (same ▸ isPodOf_iff.mpr (.inl rfl) :
        isPodOf other (owner ++ "-" ++ toString (objects.podCount + 1).toNat) = true)
      have oneLess := length_lt_of_isPodOf (one.resolve_left distinct.symm)
      have twoLess := length_lt_of_isPodOf (two.resolve_left distinct)
      omega
    rw [schedulePod_pods, isOwner, OrderedMap.get?_insert_of_ne _ another,
      OrderedMap.get?_filterKeys]
    have taken : isPodOf owner (other ++ "-" ++ toString number) = isPodOf owner other := by
      rw [Bool.eq_iff_iff, isPodOf_iff, or_iff_right distinct.symm]
    rw [taken]
    cases isPodOf owner other <;> rfl

/-! ### Another component -/

/-- The Deployment, the Service and the pods of the component `name` are the same. -/
structure SameComponent (name : String) (before after : ClusterObjects) : Prop where
  deployment : after.deployments.get? name = before.deployments.get? name
  service : after.services.get? name = before.services.get? name
  pods : ∀ number : Nat, after.pods.get? (name ++ "-" ++ toString number) =
    before.pods.get? (name ++ "-" ++ toString number)

variable {desired : DesiredComponent} {before after : ClusterObjects}

theorem get?_deployments_of_progress (progress : Progress phase desired before after)
    (distinct : other ≠ desired.name) :
    after.deployments.get? other = before.deployments.get? other := by
  have inserted : ∀ {later : ClusterObjects}, Deployed phase desired before later →
      later.deployments.get? other = before.deployments.get? other := by
    intro later deployed
    obtain ⟨stored, -, -, -, same⟩ := deployed.deployments
    rw [same, OrderedMap.get?_insert_of_ne _ distinct]
  cases progress with
  | claims added => rw [added.deployments]
  | deployment deployed services => exact inserted deployed
  | service deployed settled => exact inserted deployed

theorem get?_services_of_progress (progress : Progress phase desired before after)
    (distinct : other ≠ desired.name) :
    after.services.get? other = before.services.get? other := by
  cases progress with
  | claims added => rw [added.services]
  | deployment deployed services => rw [services]
  | service deployed settled =>
    unfold ServiceSettled at settled
    split at settled
    · obtain ⟨stored, same, -⟩ := settled
      rw [same, OrderedMap.get?_insert_of_ne _ distinct]
    · split at settled
      · rw [settled, OrderedMap.get?_erase, if_neg distinct]
      · rw [settled]

theorem get?_pods_of_deployed (rendered : desired.IsRendered)
    (deployed : Deployed phase desired before after) (distinct : other ≠ desired.name)
    (number : Nat) :
    after.pods.get? (other ++ "-" ++ toString number) =
      if phase.isSome && isPodOf desired.name other then none
      else before.pods.get? (other ++ "-" ++ toString number) := by
  rw [deployed.pods, get?_pods_schedulePod rendered.deployment_nameOrEmpty distinct]

/-- However far reconciling gets, a component is spared whose pods are not mistaken. -/
theorem sameComponent_of_progress (rendered : desired.IsRendered)
    (progress : Progress phase desired before after) (distinct : other ≠ desired.name)
    (apart : isPodOf desired.name other = false) : SameComponent other before after := by
  refine ⟨get?_deployments_of_progress progress distinct,
    get?_services_of_progress progress distinct, fun number => ?_⟩
  cases progress with
  | claims added => rw [added.pods]
  | deployment deployed services =>
    rw [get?_pods_of_deployed rendered deployed distinct, apart, Bool.and_false,
      if_neg Bool.false_ne_true]
  | service deployed settled =>
    rw [get?_pods_of_deployed rendered deployed distinct, apart, Bool.and_false,
      if_neg Bool.false_ne_true]

end ClusterObjects

namespace MemoryCluster

open ClusterObjects (SameComponent isPodOf)

variable {desired : DesiredComponent} {other : String}

/-- Reconciling spares other components, but for the pods of those whose names begin with the
component's own name and a dash. -/
theorem reconcile_spares (rendered : desired.IsRendered) (distinct : other ≠ desired.name)
    (timeout : Duration) (cluster : MemoryCluster) :
    let run := reconcile client timeout desired cluster
    (isPodOf desired.name other = false → SameComponent other cluster.objects run.2.objects) ∧
      (isPodOf desired.name other = true →
        run.2.objects.deployments.get? other = cluster.objects.deployments.get? other ∧
        run.2.objects.services.get? other = cluster.objects.services.get? other ∧
        ∀ outcome phase, run.1 = .ok outcome →
          cluster.behaviour.scheduledPodPhase = some phase →
          ∀ number : Nat, run.2.objects.pods.get? (other ++ "-" ++ toString number) = none) := by
  intro run
  have progress := reconcile_progress rendered timeout cluster
  refine ⟨ClusterObjects.sameComponent_of_progress rendered progress distinct, fun mistaken => ?_⟩
  refine ⟨ClusterObjects.get?_deployments_of_progress progress distinct,
    ClusterObjects.get?_services_of_progress progress distinct, ?_⟩
  intro outcome phase succeeded isPhase number
  have reconciled := reconciled_of_run rendered (Prod.ext succeeded rfl)
  rw [ClusterObjects.get?_pods_of_deployed rendered reconciled.deployed distinct, isPhase,
    mistaken]
  rfl

/-- Reconciling "web" does nothing to "db". -/
theorem reconcile_spares_sample :
    ∃ desired, desired.IsRendered ∧ "db" ≠ desired.name ∧
      SameComponent "db" (holding "db").objects
        (reconcile client ⟨0⟩ desired (holding "db")).2.objects := by
  have renders : ∃ desired, render (.sample [8080]) {} = .ok desired ∧
      decide ("db" ≠ desired.name ∧ isPodOf desired.name "db" = false) = true :=
    Checked.exists_of_any_toOption (by decide +kernel)
  obtain ⟨desired, rendered, apart⟩ := renders
  obtain ⟨distinct, apart⟩ := of_decide_eq_true apart
  have spares := reconcile_spares ⟨_, _, rendered⟩ distinct ⟨0⟩ (holding "db")
  exact ⟨desired, ⟨_, _, rendered⟩, distinct, spares.1 apart⟩

/-- Reconciling "web" takes the pod of "web-api" away. -/
theorem not_sameComponent_of_dash :
    ¬ ∀ (cluster : MemoryCluster) (timeout : Duration) (desired : DesiredComponent)
      (other : String), cluster.Reachable → desired.IsRendered →
      Naming.IsLabel desired.name → Naming.IsLabel other → other ≠ desired.name →
      SameComponent other cluster.objects
        (reconcile client timeout desired cluster).2.objects := by
  intro claim
  have mistaken : ∃ desired, render (.sample [8080]) {} = .ok desired ∧
      decide (desired.name = "web" ∧
        (reconcile client ⟨0⟩ desired (holding "web-api")).2.objects.pods.get? "web-api-1" =
          none) = true :=
    Checked.exists_of_any_toOption (by decide +kernel)
  obtain ⟨desired, rendered, mistaken⟩ := mistaken
  obtain ⟨isWeb, gone⟩ := of_decide_eq_true mistaken
  have isLabel : Naming.IsLabel desired.name := by
    rw [isWeb]
    constructor <;> decide
  have otherIsLabel : Naming.IsLabel "web-api" := by constructor <;> decide
  have distinct : "web-api" ≠ desired.name := by
    rw [isWeb]
    decide
  have same := claim (holding "web-api") ⟨0⟩ desired "web-api" (reachable_holding "web-api")
    ⟨_, _, rendered⟩ isLabel otherIsLabel distinct
  have held : (holding "web-api").objects.pods.get? "web-api-1" ≠ none := by decide +kernel
  exact held ((same.pods 1).symm.trans gone)

end MemoryCluster

end DevfilePush
