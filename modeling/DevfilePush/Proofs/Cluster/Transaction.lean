import DevfilePush.Cluster.InMemory
import DevfilePush.Proofs.Collection.OrderedMap
import DevfilePush.Proofs.Session

/-!
Operations as transactions.

An operation of a cluster in memory writes step by step, and what it has written before it
fails would stay. It never comes to that: every check that can fail is made where nothing has
been written yet, and a removal that fails has had nothing to remove. So each operation either
does all of its work or leaves the objects as they are (`ObjectWork.transaction`), and what it
comes to is a function of the objects before it, given here operation by operation.
-/

namespace DevfilePush

open Kubernetes (Claim Deployment Pod Service ServiceSpec)

/-! ### Outcomes

What each write comes to: the object as it is stored and the objects afterwards, or a
failure. -/

namespace ClusterObjects

/-- The version that the next write gets. -/
def nextVersion (objects : ClusterObjects) : String :=
  toString (objects.version + 1).toNat

/-- The address that the next Service gets. -/
def nextAddress (objects : ClusterObjects) : String :=
  "10.96.0." ++ toString (objects.address + 1).toNat

/-- Stores a Deployment under its name and schedules its pod. -/
def storeDeployment (objects : ClusterObjects) (phase : Option String) (deployment : Deployment) :
    Deployment × ClusterObjects :=
  let stored := { deployment with metadata := deployment.metadata.stamped objects.nextVersion }
  let objects :=
    { objects with
      version := objects.version + 1
      deployments := objects.deployments.insert deployment.metadata.nameOrEmpty stored }
  (stored, objects.schedulePod phase stored)

def createDeployment (objects : ClusterObjects) (phase : Option String) (deployment : Deployment) :
    Except Failure (Deployment × ClusterObjects) :=
  let name := deployment.metadata.nameOrEmpty
  if objects.deployments.contains name then .error (alreadyExists "deployments.apps" name)
  else .ok (objects.storeDeployment phase deployment)

def replaceDeployment (objects : ClusterObjects) (phase : Option String) (deployment : Deployment) :
    Except Failure (Deployment × ClusterObjects) :=
  let name := deployment.metadata.nameOrEmpty
  match objects.deployments.get? name with
  | none => .error (missingObject "Deployment" name)
  | some live =>
    if live.metadata.resourceVersion = deployment.metadata.resourceVersion then
      .ok (objects.storeDeployment phase deployment)
    else .error (modifiedMeanwhile "deployments.apps" name)

def deleteDeployment (objects : ClusterObjects) (name : String) :
    Except Failure (Unit × ClusterObjects) :=
  if objects.deployments.contains name then
    .ok ((), { objects with deployments := objects.deployments.erase name })
  else .error (missingObject "Deployment" name)

/-- Stores a Service under its name. -/
def storeService (objects : ClusterObjects) (service : Service) : Service × ClusterObjects :=
  let stored := { service with metadata := service.metadata.stamped objects.nextVersion }
  (stored,
    { objects with
      version := objects.version + 1
      services := objects.services.insert service.metadata.nameOrEmpty stored })

def createService (objects : ClusterObjects) (service : Service) :
    Except Failure (Service × ClusterObjects) :=
  let name := service.metadata.nameOrEmpty
  if objects.services.contains name then .error (alreadyExists "services" name)
  else
    let address := objects.nextAddress
    let spec : ServiceSpec :=
      { service.spec.getD {} with clusterIP := some address, clusterIPs := some [address] }
    let objects := { objects with address := objects.address + 1 }
    .ok (objects.storeService { service with spec := some spec })

def replaceService (objects : ClusterObjects) (service : Service) :
    Except Failure (Service × ClusterObjects) :=
  let name := service.metadata.nameOrEmpty
  match objects.services.get? name with
  | none => .error (missingObject "Service" name)
  | some live =>
    if live.metadata.resourceVersion ≠ service.metadata.resourceVersion then
      .error (modifiedMeanwhile "services" name)
    else if live.clusterIP? ≠ service.clusterIP? then
      .error (addressChanged name service.clusterIP?)
    else .ok (objects.storeService service)

def deleteService (objects : ClusterObjects) (name : String) :
    Except Failure (Unit × ClusterObjects) :=
  if objects.services.contains name then
    .ok ((), { objects with services := objects.services.erase name })
  else .error (missingObject "Service" name)

def createClaim (objects : ClusterObjects) (claim : Claim) :
    Except Failure (Claim × ClusterObjects) :=
  let name := claim.metadata.nameOrEmpty
  if objects.claims.contains name then .error (alreadyExists "persistentvolumeclaims" name)
  else
    let stored := { claim with metadata := claim.metadata.stamped objects.nextVersion }
    .ok (stored,
      { objects with
        version := objects.version + 1
        claims := objects.claims.insert name stored })

def deletePod (objects : ClusterObjects) (name : String) :
    Except Failure (Unit × ClusterObjects) :=
  if objects.pods.contains name then
    .ok ((), { objects with pods := objects.pods.erase name })
  else .error (missingObject "Pod" name)

end ClusterObjects

/-! ### Work that is done as a whole or not at all -/

namespace ObjectWork

variable {α : Type} {objects : ClusterObjects}

/-- Work that comes to `outcome` and leaves the objects as they are when it fails. -/
def transaction (outcome : ClusterObjects → Except Failure (α × ClusterObjects)) :
    ObjectWork α :=
  fun objects => match outcome objects with
    | .ok (value, after) => (.ok value, after)
    | .error failure => (.error failure, objects)

/-! ### Writes -/

theorem takeVersion_run :
    takeVersion objects =
      (.ok objects.nextVersion, { objects with version := objects.version + 1 }) :=
  rfl

theorem storeDeployment_run (phase : Option String) (deployment : Deployment) :
    storeDeployment phase deployment objects =
      (.ok (objects.storeDeployment phase deployment).1,
        (objects.storeDeployment phase deployment).2) :=
  rfl

theorem storeService_run (service : Service) :
    storeService service objects =
      (.ok (objects.storeService service).1, (objects.storeService service).2) :=
  rfl

/-- A check that fails has written nothing. -/
theorem checkVersion_run (resource : String) (live sent : Kubernetes.Metadata) :
    checkVersion resource live sent objects =
      (if live.resourceVersion = sent.resourceVersion then .ok ()
        else .error (modifiedMeanwhile resource sent.nameOrEmpty), objects) := by
  by_cases same : live.resourceVersion = sent.resourceVersion
  · simp [checkVersion, same]
  · simp [checkVersion, same]

/-- A name that is taken is noticed before anything is written. -/
theorem createDeployment_eq (phase : Option String) (deployment : Deployment) :
    createDeployment phase deployment =
      transaction fun objects => objects.createDeployment phase deployment := by
  funext objects
  rw [transaction, ClusterObjects.createDeployment]
  cases taken : objects.deployments.contains deployment.metadata.nameOrEmpty with
  | true => simp [createDeployment, Session.bind_run, taken]
  | false => simp [createDeployment, Session.bind_run, taken, storeDeployment_run]

/-- So are a Deployment that is not there and a version that is not its own. -/
theorem replaceDeployment_eq (phase : Option String) (deployment : Deployment) :
    replaceDeployment phase deployment =
      transaction fun objects => objects.replaceDeployment phase deployment := by
  funext objects
  rw [transaction, ClusterObjects.replaceDeployment]
  cases found : objects.deployments.get? deployment.metadata.nameOrEmpty with
  | none => simp [replaceDeployment, Session.bind_run, found]
  | some live =>
    by_cases same : live.metadata.resourceVersion = deployment.metadata.resourceVersion
    · simp [replaceDeployment, Session.bind_run, found, checkVersion_run, same,
        storeDeployment_run]
    · simp [replaceDeployment, Session.bind_run, found, checkVersion_run, same]

/-- A Deployment that is not there is removed to no effect before this is noticed. -/
theorem deleteDeployment_eq (name : String) :
    deleteDeployment name = transaction fun objects => objects.deleteDeployment name := by
  funext objects
  rw [transaction, ClusterObjects.deleteDeployment]
  cases found : objects.deployments.get? name with
  | none =>
    simp [deleteDeployment, Session.bind_run, OrderedMap.contains, found,
      OrderedMap.erase_of_get?_eq_none found]
  | some live => simp [deleteDeployment, Session.bind_run, OrderedMap.contains, found]

/-- An address is only taken for a Service that is then stored. -/
theorem createService_eq (service : Service) :
    createService service = transaction fun objects => objects.createService service := by
  funext objects
  rw [transaction, ClusterObjects.createService]
  cases taken : objects.services.contains service.metadata.nameOrEmpty with
  | true => simp [createService, Session.bind_run, taken]
  | false =>
    simp [createService, Session.bind_run, taken, takeAddress, storeService_run,
      ClusterObjects.nextAddress]

/-- The version is checked before the address, and both before the Service is stored. -/
theorem replaceService_eq (service : Service) :
    replaceService service = transaction fun objects => objects.replaceService service := by
  funext objects
  rw [transaction, ClusterObjects.replaceService]
  cases found : objects.services.get? service.metadata.nameOrEmpty with
  | none => simp [replaceService, Session.bind_run, found]
  | some live =>
    by_cases same : live.metadata.resourceVersion = service.metadata.resourceVersion
    · by_cases kept : live.clusterIP? = service.clusterIP?
      · simp [replaceService, Session.bind_run, found, checkVersion_run, same, kept,
          storeService_run]
      · simp [replaceService, Session.bind_run, found, checkVersion_run, same, kept]
    · simp [replaceService, Session.bind_run, found, checkVersion_run, same]

theorem deleteService_eq (name : String) :
    deleteService name = transaction fun objects => objects.deleteService name := by
  funext objects
  rw [transaction, ClusterObjects.deleteService]
  cases found : objects.services.get? name with
  | none =>
    simp [deleteService, Session.bind_run, OrderedMap.contains, found,
      OrderedMap.erase_of_get?_eq_none found]
  | some live => simp [deleteService, Session.bind_run, OrderedMap.contains, found]

theorem createClaim_eq (claim : Claim) :
    createClaim claim = transaction fun objects => objects.createClaim claim := by
  funext objects
  rw [transaction, ClusterObjects.createClaim]
  cases taken : objects.claims.contains claim.metadata.nameOrEmpty with
  | true => simp [createClaim, Session.bind_run, taken]
  | false => simp [createClaim, Session.bind_run, taken, takeVersion_run, Except.map]

theorem deletePod_eq (name : String) :
    deletePod name = transaction fun objects => objects.deletePod name := by
  funext objects
  rw [transaction, ClusterObjects.deletePod]
  cases found : objects.pods.get? name with
  | none =>
    simp [deletePod, Session.bind_run, OrderedMap.contains, found,
      OrderedMap.erase_of_get?_eq_none found]
  | some live => simp [deletePod, Session.bind_run, OrderedMap.contains, found]

end ObjectWork

/-! ### Operations -/

namespace MemoryCluster

variable {α : Type} {cluster : MemoryCluster}

/-- An operation is recorded, and it is made to fail or ends as its work on the objects. -/
theorem perform_run (call : Call) (work : ClusterBehaviour → ObjectWork α) :
    perform call work cluster = match cluster.injected? call.operation with
      | some failure => (.error failure, cluster.record call)
      | none =>
        ((work cluster.behaviour cluster.objects).1,
          { cluster.record call with objects := (work cluster.behaviour cluster.objects).2 }) := by
  have same : (cluster.record call).injected? call.operation =
      cluster.injected? call.operation := rfl
  rw [perform, Session.bind_run, Session.modify_run]
  dsimp only
  rw [Session.bind_run, Session.get_run]
  dsimp only
  rw [same]
  cases cluster.injected? call.operation <;> rfl

/-- An operation that is a transaction on the objects. -/
def transact (call : Call)
    (outcome : ClusterBehaviour → ClusterObjects → Except Failure (α × ClusterObjects)) :
    Session MemoryCluster α :=
  perform call fun behaviour => .transaction (outcome behaviour)

/-- A transaction is made to fail, it fails and leaves the objects as they are, or all of it
is done. -/
theorem transact_run (call : Call)
    (outcome : ClusterBehaviour → ClusterObjects → Except Failure (α × ClusterObjects)) :
    transact call outcome cluster = match cluster.injected? call.operation with
      | some failure => (.error failure, cluster.record call)
      | none => match outcome cluster.behaviour cluster.objects with
        | .error failure => (.error failure, cluster.record call)
        | .ok (result, objects) => (.ok result, { cluster.record call with objects := objects }) := by
  rw [transact, perform_run]
  cases cluster.injected? call.operation with
  | some failure => rfl
  | none =>
    dsimp only [ObjectWork.transaction]
    cases outcome cluster.behaviour cluster.objects <;> rfl

/-- A transaction either has only been recorded or is done as a whole. -/
theorem transact_cases (cluster : MemoryCluster) (call : Call)
    (outcome : ClusterBehaviour → ClusterObjects → Except Failure (α × ClusterObjects)) :
    (∃ failure, transact call outcome cluster = (.error failure, cluster.record call)) ∨
      ∃ value after, outcome cluster.behaviour cluster.objects = .ok (value, after) ∧
        transact call outcome cluster =
          (.ok value, { cluster.record call with objects := after }) := by
  rw [transact_run]
  cases cluster.injected? call.operation with
  | some failure => exact .inl ⟨failure, rfl⟩
  | none =>
    cases came : outcome cluster.behaviour cluster.objects with
    | error failure => exact .inl ⟨failure, rfl⟩
    | ok done =>
      obtain ⟨value, after⟩ := done
      exact .inr ⟨value, after, rfl, rfl⟩

/-- Looking at objects is a transaction that cannot fail by itself. -/
theorem inspect_eq (call : Call) (view : ClusterObjects → α) :
    inspect call view = transact call fun _ objects => .ok (view objects, objects) :=
  rfl

theorem openWatch_eq (selector : String) :
    openWatch selector =
      transact ⟨.watchPods, selector, []⟩ fun _ objects => .ok (objects.openWatch selector) :=
  rfl

/-- Watching pods opens a watch, unless it is made to fail. -/
theorem watchPods_cases (cluster : MemoryCluster) (selector : String) :
    (∃ failure, client.watchPods selector cluster =
      (.error failure, cluster.record ⟨.watchPods, selector, []⟩)) ∨
    ∃ watch, client.watchPods selector cluster =
      (.ok watch, { cluster.record ⟨.watchPods, selector, []⟩ with
        objects := (cluster.objects.openWatch selector).2 }) := by
  have run : client.watchPods selector cluster = _ := Session.bind_run _ _ cluster
  rw [run, openWatch_eq]
  rcases transact_cases cluster ⟨.watchPods, selector, []⟩ fun _ objects =>
    .ok (objects.openWatch selector) with ⟨failure, ran⟩ | ⟨watch, after, came, ran⟩
  · rw [ran]
    exact .inl ⟨failure, rfl⟩
  · rw [ran]
    cases came
    exact .inr ⟨_, rfl⟩

/-- Each operation of the client is a transaction, recorded with its name and its argument. -/
theorem client_createDeployment (deployment : Deployment) :
    client.createDeployment deployment =
      transact ⟨.createDeployment, deployment.metadata.nameOrEmpty, []⟩ fun behaviour objects =>
        objects.createDeployment behaviour.scheduledPodPhase deployment := by
  simp only [client, transact, ObjectWork.createDeployment_eq]

theorem client_replaceDeployment (deployment : Deployment) :
    client.replaceDeployment deployment =
      transact ⟨.replaceDeployment, deployment.metadata.nameOrEmpty, []⟩ fun behaviour objects =>
        objects.replaceDeployment behaviour.scheduledPodPhase deployment := by
  simp only [client, transact, ObjectWork.replaceDeployment_eq]

theorem client_deleteDeployment (name : String) :
    client.deleteDeployment name =
      transact ⟨.deleteDeployment, name, []⟩ fun _ objects => objects.deleteDeployment name := by
  simp only [client, transact, ObjectWork.deleteDeployment_eq]

theorem client_createService (service : Service) :
    client.createService service =
      transact ⟨.createService, service.metadata.nameOrEmpty, []⟩ fun _ objects =>
        objects.createService service := by
  simp only [client, transact, ObjectWork.createService_eq]

theorem client_replaceService (service : Service) :
    client.replaceService service =
      transact ⟨.replaceService, service.metadata.nameOrEmpty, []⟩ fun _ objects =>
        objects.replaceService service := by
  simp only [client, transact, ObjectWork.replaceService_eq]

theorem client_deleteService (name : String) :
    client.deleteService name =
      transact ⟨.deleteService, name, []⟩ fun _ objects => objects.deleteService name := by
  simp only [client, transact, ObjectWork.deleteService_eq]

theorem client_createClaim (claim : Claim) :
    client.createClaim claim =
      transact ⟨.createClaim, claim.metadata.nameOrEmpty, []⟩ fun _ objects =>
        objects.createClaim claim := by
  simp only [client, transact, ObjectWork.createClaim_eq]

theorem client_deletePod (name : String) :
    client.deletePod name =
      transact ⟨.deletePod, name, []⟩ fun _ objects => objects.deletePod name := by
  simp only [client, transact, ObjectWork.deletePod_eq]

end MemoryCluster

end DevfilePush
