import DevfilePush.Proofs.Collection.OrderedMap
import DevfilePush.Proofs.Push.Readiness
import DevfilePush.Proofs.Synthesis.Rendering
import DevfilePush.Push.Reconcile

/-!
How far reconciling gets.

Reconciling writes claims, then the Deployment, then the Service, and waits. It can end
after any of these writes, so what it leaves behind is one of a few stages (`Progress`),
each described by how the objects differ from those that it began with. `Reconciled` is
the end of a successful run; `Interrupted` names, for a failed one, how far it got and
what stopped it.
-/

namespace DevfilePush

open Kubernetes (Claim Deployment Pod Service)

/-- The Deployment that reconciling takes for the component's own. -/
def DesiredComponent.live? (desired : DesiredComponent) (objects : ClusterObjects) :
    Option Deployment :=
  (objects.deployments.values.filter fun deployment =>
    matchesSelector deployment.metadata.labels desired.selector).find? fun deployment =>
      deployment.metadata.name = some desired.name

/-- A Deployment that is stored as the component's own is found: nothing else of its name
is stored. -/
theorem DesiredComponent.live?_eq_some {desired : DesiredComponent} {objects : ClusterObjects}
    {stored : Deployment}
    (keyed : objects.deployments.KeyedBy fun deployment => deployment.metadata.nameOrEmpty)
    (isStored : objects.deployments.get? desired.name = some stored)
    (isNamed : stored.metadata.name = some desired.name)
    (isMatch : matchesSelector stored.metadata.labels desired.selector = true) :
    desired.live? objects = some stored := by
  have isCandidate : stored ∈ objects.deployments.values.filter fun deployment =>
      matchesSelector deployment.metadata.labels desired.selector :=
    List.mem_filter.mpr ⟨OrderedMap.mem_values_of_get? isStored, isMatch⟩
  cases found : desired.live? objects with
  | none =>
    rw [DesiredComponent.live?, List.find?_eq_none] at found
    exact absurd (decide_eq_true isNamed) (found stored isCandidate)
  | some live =>
    have liveNamed : live.metadata.name = some desired.name :=
      by simpa using List.find?_some found
    obtain ⟨isValue, -⟩ := List.mem_filter.mp (List.mem_of_find?_eq_some found)
    have isLive := keyed.get?_of_mem_values isValue
    rw [Kubernetes.Metadata.nameOrEmpty, liveNamed, Option.getD_some, isStored] at isLive
    exact isLive.symm

/-- The action that the live Deployment asks for. -/
def ReconcileAction.ofLive : Option Deployment → ReconcileAction
  | some _ => .updated
  | none => .created

/-- A stored Service offers what a desired one asks for. -/
structure Kubernetes.Service.AgreesWith (stored desired : Service) : Prop where
  labels : stored.metadata.labels = desired.metadata.labels
  selector : stored.spec.bind (·.selector) = desired.spec.bind (·.selector)
  ports : stored.spec.bind (·.ports) = desired.spec.bind (·.ports)

/-! ### Stages -/

/-- Claims have been created, and nothing else has been written. -/
structure ClaimsAdded (before after : ClusterObjects) : Prop where
  deployments : after.deployments = before.deployments
  services : after.services = before.services
  pods : after.pods = before.pods
  podCount : after.podCount = before.podCount
  kept : ∀ name claim, before.claims.get? name = some claim → after.claims.get? name = some claim

/-- There is a claim under the name of each of the given ones. -/
def ClusterObjects.HasClaims (objects : ClusterObjects) (claims : List Claim) : Prop :=
  ∀ claim ∈ claims, objects.claims.contains claim.metadata.nameOrEmpty = true

/-- The claims are there, and the Deployment and its pod are as desired. It takes a sound
probe to get there: one that has found a Deployment where one was stored. -/
structure Deployed (phase : Option String) (desired : DesiredComponent)
    (before after : ClusterObjects) : Prop where
  probed : desired.live? before = none ↔ before.deployments.get? desired.name = none
  deployments : ∃ stored : Deployment, stored.metadata.name = some desired.name ∧
    stored.metadata.labels = some desired.labels ∧ stored.spec = desired.deployment.spec ∧
    after.deployments = before.deployments.insert desired.name stored
  pods : after.pods = (before.schedulePod phase desired.deployment).pods
  hasClaims : after.HasClaims desired.claims
  kept : ∀ name claim, before.claims.get? name = some claim → after.claims.get? name = some claim

/-- The desired Service is stored, at the address of the one that was there before if
there was one. -/
def ServiceStored (desired : DesiredComponent) (service : Service)
    (before after : ClusterObjects) : Prop :=
  ∃ stored : Service, after.services = before.services.insert desired.name stored ∧
    stored.AgreesWith service ∧
    match before.services.get? desired.name with
    | some live => stored.clusterIP? = live.clusterIP?
    | none => stored.clusterIP?.isSome = true

/-- What has become of the Service. One that is not desired any more is dropped only on
an update. -/
def ServiceSettled (desired : DesiredComponent) (before after : ClusterObjects) : Prop :=
  match desired.service with
  | some service => ServiceStored desired service before after
  | none =>
    match desired.live? before with
    | some _ => after.services = before.services.erase desired.name
    | none => after.services = before.services

/-- How far reconciling has got. -/
inductive Progress (phase : Option String) (desired : DesiredComponent)
    (before after : ClusterObjects) : Prop where
  | claims (added : ClaimsAdded before after)
  | deployment (deployed : Deployed phase desired before after)
      (services : after.services = before.services)
  | service (deployed : Deployed phase desired before after)
      (settled : ServiceSettled desired before after)

/-! ### Outcomes -/

/-- What stops reconciling. -/
inductive Setback (behaviour : ClusterBehaviour) (timeout : Duration) (desired : DesiredComponent)
    (before after : ClusterObjects) : Failure → Prop where
  /-- An operation is made to fail. -/
  | injected {operation : Operation} {message : String}
      (isInjected : behaviour.failures.get? operation = some message) :
      Setback behaviour timeout desired before after (.cluster (.injected message))
  /-- The Deployment under the component's name is not the one that was taken for it. -/
  | misjudged {cause : ClusterError}
      (wrong : desired.live? before ≠ before.deployments.get? desired.name) :
      Setback behaviour timeout desired before after (.cluster cause)
  /-- A Service is in the way of the one that is to be created with the Deployment. -/
  | leftover {cause : ClusterError} (absent : desired.live? before = none)
      (occupied : before.services.get? desired.name ≠ none) :
      Setback behaviour timeout desired before after (.cluster cause)
  /-- No pod is running in time. -/
  | notRunning {failure : Failure}
      (deployed : Deployed behaviour.scheduledPodPhase desired before after)
      (waited : ((MemoryCluster.watchOf after desired.selector).outcome desired.selector
        timeout).2 = .error failure) :
      Setback behaviour timeout desired before after failure

/-- What a failed run leaves behind, and why it failed. -/
structure Interrupted (behaviour : ClusterBehaviour) (timeout : Duration)
    (desired : DesiredComponent) (before : ClusterObjects) (failure : Failure)
    (after : ClusterObjects) : Prop where
  setback : Setback behaviour timeout desired before after failure
  progress : Progress behaviour.scheduledPodPhase desired before after

/-- What a successful run leaves behind. -/
structure Reconciled (behaviour : ClusterBehaviour) (timeout : Duration)
    (desired : DesiredComponent) (before : ClusterObjects) (outcome : ReconcileOutcome)
    (after : ClusterObjects) : Prop where
  action : outcome.action = .ofLive (desired.live? before)
  deployed : Deployed behaviour.scheduledPodPhase desired before after
  settled : ServiceSettled desired before after
  running : ∃ pod : Pod, outcome.pod = pod.metadata.nameOrEmpty ∧
    ((MemoryCluster.watchOf after desired.selector).outcome desired.selector timeout).2 = .ok pod

variable {behaviour : ClusterBehaviour} {timeout : Duration} {desired : DesiredComponent}
  {before after : ClusterObjects} {failure : Failure} {phase : Option String}

/-- Whatever stops reconciling, it is the cluster that fails. -/
theorem Interrupted.exists_cluster
    (interrupted : Interrupted behaviour timeout desired before failure after) :
    ∃ cause, failure = .cluster cause := by
  cases interrupted.setback with
  | injected | misjudged | leftover => exact ⟨_, rfl⟩
  | notRunning deployed waited => exact MemoryCluster.exists_cluster_of_outcome waited

/-! ### Reaching a stage -/

theorem ClaimsAdded.refl (objects : ClusterObjects) : ClaimsAdded objects objects :=
  ⟨rfl, rfl, rfl, rfl, fun _ _ held => held⟩

/-- One more claim, under a name that is free. -/
theorem ClaimsAdded.withClaim (added : ClaimsAdded before after) {claim : Claim}
    (free : after.claims.get? claim.metadata.nameOrEmpty = none) :
    ClaimsAdded before (after.withClaim claim).2 := by
  refine ⟨ClusterObjects.withClaim_deployments.trans added.deployments,
    ClusterObjects.withClaim_services.trans added.services,
    ClusterObjects.withClaim_pods.trans added.pods, added.podCount, ?_⟩
  intro name held isHeld
  have stillHeld := added.kept name held isHeld
  have ne : name ≠ claim.metadata.nameOrEmpty := by
    rintro rfl
    rw [free] at stillHeld
    cases stillHeld
  rw [ClusterObjects.withClaim_claims, OrderedMap.get?_insert_of_ne _ ne, stillHeld]

/-- Storing the desired Deployment, on whatever version it is based. -/
theorem ClaimsAdded.storeDeployment (rendered : desired.IsRendered)
    (added : ClaimsAdded before after) (hasClaims : after.HasClaims desired.claims)
    (probed : desired.live? before = none ↔ before.deployments.get? desired.name = none)
    (version : Option String) :
    Deployed phase desired before
      (after.storeDeployment phase (desired.deployment.withVersion version)).2 := by
  have isNamed := rendered.withVersion_nameOrEmpty version
  refine ⟨probed, ⟨(after.storeDeployment phase (desired.deployment.withVersion version)).1, ?_,
    ?_, ?_, ?_⟩, ?_, ?_, ?_⟩
  · simp [ClusterObjects.storeDeployment, Deployment.withVersion, rendered.deployment_metadata,
      Kubernetes.Metadata.stamped, Kubernetes.Metadata.named]
  · simp [ClusterObjects.storeDeployment, Deployment.withVersion, rendered.deployment_metadata,
      Kubernetes.Metadata.stamped, Kubernetes.Metadata.named, rendered.labels_eq]
  · rfl
  · rw [ClusterObjects.storeDeployment_deployments, isNamed, added.deployments]
  · cases phase with
    | none => exact added.pods
    | some phase =>
      rw [ClusterObjects.schedulePod_pods, ← added.pods, ← added.podCount]
      rfl
  · intro claim mem
    rw [ClusterObjects.storeDeployment_claims]
    exact hasClaims claim mem
  · intro name claim held
    rw [ClusterObjects.storeDeployment_claims]
    exact added.kept name claim held

/-- The Deployment stays as it is while other objects are written. -/
theorem Deployed.of_eq (deployed : Deployed phase desired before after) {later : ClusterObjects}
    (deployments : later.deployments = after.deployments) (pods : later.pods = after.pods)
    (claims : later.claims = after.claims) : Deployed phase desired before later := by
  constructor
  case probed => exact deployed.probed
  case deployments => rw [deployments]; exact deployed.deployments
  case pods => rw [pods]; exact deployed.pods
  case hasClaims =>
    intro claim mem
    rw [claims]
    exact deployed.hasClaims claim mem
  case kept =>
    intro name claim held
    rw [claims]
    exact deployed.kept name claim held

end DevfilePush
