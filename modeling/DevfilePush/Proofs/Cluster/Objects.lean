import DevfilePush.Proofs.Cluster.Transaction

/-!
What a write changes.

A write touches one kind of object, and the pods of a Deployment when it stores one;
everything else stays as it is. These are the frame lemmas of the writes, together with
what is found afterwards in the place that was written.
-/

namespace DevfilePush

open Kubernetes (Claim Deployment Pod Service)

namespace ClusterObjects

variable {objects : ClusterObjects} {phase : Option String} {deployment : Deployment}
  {service : Service}

/-! ### Pods -/

@[simp] theorem schedulePod_deployments :
    (objects.schedulePod phase deployment).deployments = objects.deployments := by
  cases phase <;> rfl

@[simp] theorem schedulePod_services :
    (objects.schedulePod phase deployment).services = objects.services := by
  cases phase <;> rfl

@[simp] theorem schedulePod_claims :
    (objects.schedulePod phase deployment).claims = objects.claims := by
  cases phase <;> rfl

/-- The pod that is scheduled for a Deployment, as the `number`th of all. -/
def scheduledPod (deployment : Deployment) (phase : String) (number : UInt64) : Pod :=
  .named (deployment.metadata.nameOrEmpty ++ "-" ++ toString number.toNat)
    deployment.templateLabels phase

/-- A Deployment loses the pods that it had and gets one. -/
theorem schedulePod_pods {phase : String} :
    (objects.schedulePod (some phase) deployment).pods =
      (objects.pods.filterKeys fun name =>
        !isPodOf deployment.metadata.nameOrEmpty name).insert
        (deployment.metadata.nameOrEmpty ++ "-" ++ toString (objects.podCount + 1).toNat)
        (scheduledPod deployment phase (objects.podCount + 1)) := rfl

/-! ### Deployments -/

@[simp] theorem storeDeployment_services :
    (objects.storeDeployment phase deployment).2.services = objects.services :=
  schedulePod_services

@[simp] theorem storeDeployment_claims :
    (objects.storeDeployment phase deployment).2.claims = objects.claims :=
  schedulePod_claims

@[simp] theorem storeDeployment_deployments :
    (objects.storeDeployment phase deployment).2.deployments =
      objects.deployments.insert deployment.metadata.nameOrEmpty
        (objects.storeDeployment phase deployment).1 :=
  schedulePod_deployments

/-- The version that a Deployment gets is no matter of its pod. -/
theorem storeDeployment_pods :
    (objects.storeDeployment phase deployment).2.pods =
      (objects.schedulePod phase deployment).pods := by
  cases phase <;> rfl

/-- A Deployment is created where none of its name is. -/
theorem createDeployment_of_free
    (free : objects.deployments.get? deployment.metadata.nameOrEmpty = none) :
    objects.createDeployment phase deployment = .ok (objects.storeDeployment phase deployment) := by
  simp [createDeployment, OrderedMap.contains, free]

/-- What is created has been stored. -/
theorem createDeployment_eq_ok {stored : Deployment} {after : ClusterObjects}
    (created : objects.createDeployment phase deployment = .ok (stored, after)) :
    stored = (objects.storeDeployment phase deployment).1 ∧
      after = (objects.storeDeployment phase deployment).2 := by
  rw [createDeployment] at created
  split at created
  · cases created
  · cases created
    exact ⟨rfl, rfl⟩

/-- What has replaced another Deployment has been stored. -/
theorem replaceDeployment_eq_ok {stored : Deployment} {after : ClusterObjects}
    (replaced : objects.replaceDeployment phase deployment = .ok (stored, after)) :
    stored = (objects.storeDeployment phase deployment).1 ∧
      after = (objects.storeDeployment phase deployment).2 := by
  rw [replaceDeployment] at replaced
  split at replaced
  · cases replaced
  · split at replaced
    · cases replaced
      exact ⟨rfl, rfl⟩
    · cases replaced

theorem deleteDeployment_eq_ok {name : String} {done : Unit} {after : ClusterObjects}
    (deleted : objects.deleteDeployment name = .ok (done, after)) :
    after = { objects with deployments := objects.deployments.erase name } := by
  rw [deleteDeployment] at deleted
  split at deleted
  · cases deleted
    rfl
  · cases deleted

/-- A Deployment replaces the live one of its name over the version of that. -/
theorem replaceDeployment_of_live {live : Deployment}
    (isLive : objects.deployments.get? deployment.metadata.nameOrEmpty = some live)
    (same : live.metadata.resourceVersion = deployment.metadata.resourceVersion) :
    objects.replaceDeployment phase deployment =
      .ok (objects.storeDeployment phase deployment) := by
  simp [replaceDeployment, isLive, same]

/-! ### Services -/

/-- The Service as it is created: with the next address in its specification. -/
def addressed (objects : ClusterObjects) (service : Service) : Service :=
  { service with
    spec := some
      { service.spec.getD {} with
        clusterIP := some objects.nextAddress
        clusterIPs := some [objects.nextAddress] } }

/-- What is left after creating a Service. -/
def withService (objects : ClusterObjects) (service : Service) : Service × ClusterObjects :=
  { objects with address := objects.address + 1 }.storeService (objects.addressed service)

@[simp] theorem withService_deployments :
    (objects.withService service).2.deployments = objects.deployments := rfl

@[simp] theorem withService_claims :
    (objects.withService service).2.claims = objects.claims := rfl

@[simp] theorem withService_pods :
    (objects.withService service).2.pods = objects.pods := rfl

@[simp] theorem withService_services :
    (objects.withService service).2.services =
      objects.services.insert service.metadata.nameOrEmpty (objects.withService service).1 := rfl

@[simp] theorem storeService_deployments :
    (objects.storeService service).2.deployments = objects.deployments := rfl

@[simp] theorem storeService_claims :
    (objects.storeService service).2.claims = objects.claims := rfl

@[simp] theorem storeService_pods :
    (objects.storeService service).2.pods = objects.pods := rfl

@[simp] theorem storeService_services :
    (objects.storeService service).2.services =
      objects.services.insert service.metadata.nameOrEmpty (objects.storeService service).1 := rfl

/-- A Service is created where none of its name is. -/
theorem createService_of_free
    (free : objects.services.get? service.metadata.nameOrEmpty = none) :
    objects.createService service = .ok (objects.withService service) := by
  simp [createService, OrderedMap.contains, free, withService, addressed]

/-- A Service replaces the live one of its name over the version and address of that. -/
theorem replaceService_of_live {live : Service}
    (isLive : objects.services.get? service.metadata.nameOrEmpty = some live)
    (same : live.metadata.resourceVersion = service.metadata.resourceVersion)
    (kept : live.clusterIP? = service.clusterIP?) :
    objects.replaceService service = .ok (objects.storeService service) := by
  simp [replaceService, isLive, same, kept]

/-- What is created has been stored with an address of its own. -/
theorem createService_eq_ok {stored : Service} {after : ClusterObjects}
    (created : objects.createService service = .ok (stored, after)) :
    stored = (objects.withService service).1 ∧ after = (objects.withService service).2 := by
  rw [createService] at created
  split at created
  · cases created
  · cases created
    exact ⟨rfl, rfl⟩

/-- What is created had a name that was free. -/
theorem free_of_createService {stored : Service} {after : ClusterObjects}
    (created : objects.createService service = .ok (stored, after)) :
    objects.services.get? service.metadata.nameOrEmpty = none := by
  rw [createService] at created
  split at created
  · cases created
  · rename_i free
    simpa [OrderedMap.contains] using free

/-- What has replaced another Service had the address of that. -/
theorem exists_live_of_replaceService {stored : Service} {after : ClusterObjects}
    (replaced : objects.replaceService service = .ok (stored, after)) :
    ∃ live, objects.services.get? service.metadata.nameOrEmpty = some live ∧
      live.clusterIP? = service.clusterIP? := by
  rw [replaceService] at replaced
  split at replaced
  · cases replaced
  · rename_i live isLive
    split at replaced
    · cases replaced
    · split at replaced
      · cases replaced
      · rename_i kept
        exact ⟨live, isLive, Decidable.not_not.mp kept⟩

/-- What has replaced another Service has been stored. -/
theorem replaceService_eq_ok {stored : Service} {after : ClusterObjects}
    (replaced : objects.replaceService service = .ok (stored, after)) :
    stored = (objects.storeService service).1 ∧ after = (objects.storeService service).2 := by
  rw [replaceService] at replaced
  split at replaced
  · cases replaced
  · split at replaced
    · cases replaced
    · split at replaced
      · cases replaced
      · cases replaced
        exact ⟨rfl, rfl⟩

theorem deleteService_eq_ok {name : String} {done : Unit} {after : ClusterObjects}
    (deleted : objects.deleteService name = .ok (done, after)) :
    after = { objects with services := objects.services.erase name } := by
  rw [deleteService] at deleted
  split at deleted
  · cases deleted
    rfl
  · cases deleted

theorem deletePod_eq_ok {name : String} {done : Unit} {after : ClusterObjects}
    (deleted : objects.deletePod name = .ok (done, after)) :
    after = { objects with pods := objects.pods.erase name } := by
  rw [deletePod] at deleted
  split at deleted
  · cases deleted
    rfl
  · cases deleted

/-! ### Claims -/

/-- What is left after creating a claim. -/
def withClaim (objects : ClusterObjects) (claim : Claim) : Claim × ClusterObjects :=
  let stored := { claim with metadata := claim.metadata.stamped objects.nextVersion }
  (stored,
    { objects with
      version := objects.version + 1
      claims := objects.claims.insert claim.metadata.nameOrEmpty stored })

variable {claim : Claim}

/-- A claim is created where none of its name is. -/
theorem createClaim_of_free (free : objects.claims.get? claim.metadata.nameOrEmpty = none) :
    objects.createClaim claim = .ok (objects.withClaim claim) := by
  simp [createClaim, OrderedMap.contains, free, withClaim]

/-- What is created has been stored. -/
theorem createClaim_eq_ok {stored : Claim} {after : ClusterObjects}
    (created : objects.createClaim claim = .ok (stored, after)) :
    stored = (objects.withClaim claim).1 ∧ after = (objects.withClaim claim).2 := by
  rw [createClaim] at created
  split at created
  · cases created
  · cases created
    exact ⟨rfl, rfl⟩

@[simp] theorem withClaim_deployments :
    (objects.withClaim claim).2.deployments = objects.deployments := rfl

@[simp] theorem withClaim_services :
    (objects.withClaim claim).2.services = objects.services := rfl

@[simp] theorem withClaim_pods : (objects.withClaim claim).2.pods = objects.pods := rfl

@[simp] theorem withClaim_claims :
    (objects.withClaim claim).2.claims =
      objects.claims.insert claim.metadata.nameOrEmpty (objects.withClaim claim).1 := rfl

end ClusterObjects

end DevfilePush
