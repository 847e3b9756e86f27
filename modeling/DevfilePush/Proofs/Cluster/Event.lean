import DevfilePush.Proofs.Cluster.Calm
import DevfilePush.Proofs.Cluster.Reachable

/-!
What happens to a cluster, and in which order.

Any number of clients use a cluster at the same time, and each operation happens at once, so
that what they do together is one sequence of events. `Occurs` says which event can happen
when; creating, replacing and deleting a versioned object are told apart, together with the
answer that the client gets, and everything else is one kind of event. A `Run` is any such
sequence, and the clusters that a run leads to are those that can come about
(`reachable_iff_exists_run`).

What an event does to the objects is said once for all kinds of object
(`Occurs.writes_or_clears`): it stores one, with the next version, in its place, or it
clears a place at most.
-/

namespace DevfilePush

open Kubernetes (Claim Deployment Pod Service)

/-! ### Versioned objects -/

/-- The kinds of object that have versions. -/
inductive ObjectKind where
  | deployment
  | service
  | claim
  deriving DecidableEq, Repr

/-- The kind as a failure to find an object names it. -/
def ObjectKind.name : ObjectKind → String
  | deployment => Deployment.kind
  | service => Service.kind
  | claim => Claim.kind

/-- The kind as a conflict names it. -/
def ObjectKind.resource : ObjectKind → String
  | deployment => "deployments.apps"
  | service => "services"
  | claim => "persistentvolumeclaims"

/-- The operation that replaces objects of the kind; claims are never replaced. -/
def ObjectKind.replacement? : ObjectKind → Option Operation
  | deployment => some .replaceDeployment
  | service => some .replaceService
  | claim => none

/-- Where an object is stored. -/
structure Place where
  kind : ObjectKind
  name : String
  deriving DecidableEq, Repr

/-- An object that has a version. -/
inductive ClusterObject where
  | deployment (deployment : Deployment)
  | service (service : Service)
  | claim (claim : Claim)
  deriving DecidableEq, Repr

namespace ClusterObject

def kind : ClusterObject → ObjectKind
  | .deployment _ => .deployment
  | .service _ => .service
  | .claim _ => .claim

def metadata : ClusterObject → Kubernetes.Metadata
  | .deployment object => object.metadata
  | .service object => object.metadata
  | .claim object => object.metadata

/-- The place of an object is that of its name. -/
def place (object : ClusterObject) : Place :=
  ⟨object.kind, object.metadata.nameOrEmpty⟩

/-- The version that an object has, or that it is based on. -/
def version (object : ClusterObject) : Option String :=
  object.metadata.resourceVersion

/-- The address of a Service; other objects have none. -/
def address? : ClusterObject → Option String
  | .service object => object.clusterIP?
  | _ => none

/-- The object with a version of its own. -/
def stamped (version : String) : ClusterObject → ClusterObject
  | .deployment object => .deployment { object with metadata := object.metadata.stamped version }
  | .service object => .service { object with metadata := object.metadata.stamped version }
  | .claim object => .claim { object with metadata := object.metadata.stamped version }

variable {object : ClusterObject} {version : String}

@[simp] theorem place_stamped : (object.stamped version).place = object.place := by
  cases object <;> rfl

/-! ### Refused replacements -/

/-- There is nothing to be replaced. -/
def missing (sent : ClusterObject) : Failure :=
  missingObject sent.kind.name sent.metadata.nameOrEmpty

/-- What is to be replaced has another version. -/
def conflict (sent : ClusterObject) : Failure :=
  modifiedMeanwhile sent.kind.resource sent.metadata.nameOrEmpty

/-- What is to be replaced has another address. -/
def moved (sent : ClusterObject) : Failure :=
  addressChanged sent.metadata.nameOrEmpty sent.address?

/-- Why an object cannot replace what is stored in its place. -/
def refusal? (sent : ClusterObject) : Option ClusterObject → Option Failure
  | none => some sent.missing
  | some live =>
    if live.version ≠ sent.version then some sent.conflict
    else if live.address? ≠ sent.address? then some sent.moved
    else none

/-- The answer to a replacement that is not made to fail. -/
def replacementAnswer (sent : ClusterObject) (live : Option ClusterObject) (next : String) :
    Except Failure ClusterObject :=
  match sent.refusal? live with
  | some failure => .error failure
  | none => .ok (sent.stamped next)

/-- What can be replaced is there, in the version that the replacement is based on. -/
theorem exists_live_of_refusal?_eq_none {live : Option ClusterObject}
    (accepted : object.refusal? live = none) :
    ∃ stored, live = some stored ∧ stored.version = object.version := by
  cases live with
  | none => cases accepted
  | some stored =>
    by_cases same : stored.version = object.version
    · exact ⟨stored, rfl, same⟩
    · rw [refusal?, if_pos same] at accepted
      cases accepted

/-- What has another version is in conflict. -/
theorem refusal?_of_version_ne {live : ClusterObject} (other : live.version ≠ object.version) :
    object.refusal? (some live) = some object.conflict :=
  if_pos other

/-- Only an address is objected to where the version is the right one. -/
theorem refusal?_of_version_eq {live : ClusterObject} {failure : Failure}
    (same : live.version = object.version)
    (refused : object.refusal? (some live) = some failure) :
    live.address? ≠ object.address? ∧ failure = object.moved := by
  rw [refusal?, if_neg (not_not_intro same)] at refused
  split at refused
  · rename_i differs
    exact ⟨differs, (Option.some.inj refused).symm⟩
  · cases refused

end ClusterObject

/-- What is stored in a place. -/
def ClusterObjects.at? (objects : ClusterObjects) : Place → Option ClusterObject
  | ⟨.deployment, name⟩ => (objects.deployments.get? name).map .deployment
  | ⟨.service, name⟩ => (objects.services.get? name).map .service
  | ⟨.claim, name⟩ => (objects.claims.get? name).map .claim

namespace ClusterObjects

variable {objects after : ClusterObjects}

theorem at?_congr (deployments : after.deployments = objects.deployments)
    (services : after.services = objects.services) (claims : after.claims = objects.claims)
    (place : Place) : after.at? place = objects.at? place := by
  obtain ⟨kind, name⟩ := place
  cases kind <;> simp only [at?, deployments, services, claims]

@[simp] theorem schedulePod_version {phase : Option String} {deployment : Deployment} :
    (objects.schedulePod phase deployment).version = objects.version := by
  cases phase <;> rfl

end ClusterObjects

/-! ### Events -/

/-- Something that happens to a cluster. -/
inductive ClusterEvent where
  /-- An object is sent to be created; the answer is what has been stored. -/
  | create (sent : ClusterObject) (answer : Except Failure ClusterObject)
  /-- An object is sent to replace the one in its place. -/
  | replace (sent : ClusterObject) (answer : Except Failure ClusterObject)
  | delete (place : Place) (answer : Except Failure Unit)
  | other

namespace ClusterEvent

/-- The object that an event has stored. -/
def written? : ClusterEvent → Option ClusterObject
  | create _ (.ok stored) => some stored
  | replace _ (.ok stored) => some stored
  | _ => none

/-- The place that an event has cleared. -/
def cleared? : ClusterEvent → Option Place
  | delete place (.ok ()) => some place
  | _ => none

/-- Something is stored in the place, or it is cleared. -/
def Touches (event : ClusterEvent) (place : Place) : Prop :=
  event.written?.map (·.place) = some place ∨ event.cleared? = some place

/-- What stores an object clears nothing. -/
theorem cleared?_eq_none {event : ClusterEvent} {object : ClusterObject}
    (written : event.written? = some object) : event.cleared? = none := by
  cases event with
  | delete place answer => cases written
  | _ => rfl

end ClusterEvent

namespace MemoryCluster

/-- An event that takes a cluster to another one. -/
inductive Occurs : MemoryCluster → ClusterEvent → MemoryCluster → Prop where
  | createDeployment (cluster : MemoryCluster) (deployment : Deployment) :
      Occurs cluster
        (.create (.deployment deployment)
          ((client.createDeployment deployment cluster).1.map .deployment))
        (client.createDeployment deployment cluster).2
  | replaceDeployment (cluster : MemoryCluster) (deployment : Deployment) :
      Occurs cluster
        (.replace (.deployment deployment)
          ((client.replaceDeployment deployment cluster).1.map .deployment))
        (client.replaceDeployment deployment cluster).2
  | deleteDeployment (cluster : MemoryCluster) (name : String) :
      Occurs cluster
        (.delete ⟨.deployment, name⟩ (client.deleteDeployment name cluster).1)
        (client.deleteDeployment name cluster).2
  | createService (cluster : MemoryCluster) (service : Service) :
      Occurs cluster
        (.create (.service service) ((client.createService service cluster).1.map .service))
        (client.createService service cluster).2
  | replaceService (cluster : MemoryCluster) (service : Service) :
      Occurs cluster
        (.replace (.service service) ((client.replaceService service cluster).1.map .service))
        (client.replaceService service cluster).2
  | deleteService (cluster : MemoryCluster) (name : String) :
      Occurs cluster (.delete ⟨.service, name⟩ (client.deleteService name cluster).1)
        (client.deleteService name cluster).2
  | createClaim (cluster : MemoryCluster) (claim : Claim) :
      Occurs cluster (.create (.claim claim) ((client.createClaim claim cluster).1.map .claim))
        (client.createClaim claim cluster).2
  | listDeployments (cluster : MemoryCluster) (selector : String) :
      Occurs cluster .other (client.listDeployments selector cluster).2
  | getService (cluster : MemoryCluster) (name : String) :
      Occurs cluster .other (client.getService name cluster).2
  | getClaim (cluster : MemoryCluster) (name : String) :
      Occurs cluster .other (client.getClaim name cluster).2
  | listPods (cluster : MemoryCluster) (selector : String) :
      Occurs cluster .other (client.listPods selector cluster).2
  | deletePod (cluster : MemoryCluster) (name : String) :
      Occurs cluster .other (client.deletePod name cluster).2
  | watchPods (cluster : MemoryCluster) (selector : String) :
      Occurs cluster .other (client.watchPods selector cluster).2
  | exec (cluster : MemoryCluster) (pod container : String) (program : List String) :
      Occurs cluster .other (client.exec pod container program cluster).2
  | closeWatch (cluster : MemoryCluster) (number : Nat) :
      Occurs cluster .other { cluster with objects := cluster.objects.closeWatch number }
  | addPod (cluster : MemoryCluster) (pod : Pod) : Occurs cluster .other (cluster.addPod pod)
  | behave (cluster : MemoryCluster) (behaviour : ClusterBehaviour) :
      Occurs cluster .other (cluster.behaving behaviour)
  | forget (cluster : MemoryCluster) : Occurs cluster .other { cluster with history := [] }

/-- Events one after another, from the first to the last. -/
inductive Run (start : MemoryCluster) : List ClusterEvent → MemoryCluster → Prop where
  | nil : Run start [] start
  | snoc {events : List ClusterEvent} {cluster next : MemoryCluster} {event : ClusterEvent}
      (run : Run start events cluster) (occurs : Occurs cluster event next) :
      Run start (events ++ [event]) next

variable {start cluster next : MemoryCluster} {event : ClusterEvent}
  {events later : List ClusterEvent}

/-- A run that goes on. -/
theorem Run.append (run : Run start events cluster) (goesOn : Run cluster later next) :
    Run start (events ++ later) next := by
  induction goesOn with
  | nil => rwa [List.append_nil]
  | snoc _ occurs ih =>
    rw [← List.append_assoc]
    exact ih.snoc occurs

theorem Occurs.step (occurs : Occurs cluster event next) : Step cluster next := by
  cases occurs with
  | createDeployment deployment => exact .createDeployment cluster deployment
  | replaceDeployment deployment => exact .replaceDeployment cluster deployment
  | deleteDeployment name => exact .deleteDeployment cluster name
  | createService service => exact .createService cluster service
  | replaceService service => exact .replaceService cluster service
  | deleteService name => exact .deleteService cluster name
  | createClaim claim => exact .createClaim cluster claim
  | listDeployments selector => exact .listDeployments cluster selector
  | getService name => exact .getService cluster name
  | getClaim name => exact .getClaim cluster name
  | listPods selector => exact .listPods cluster selector
  | deletePod name => exact .deletePod cluster name
  | watchPods selector => exact .watchPods cluster selector
  | exec pod container program => exact .exec cluster pod container program
  | closeWatch number => exact .closeWatch cluster number
  | addPod pod => exact .addPod cluster pod
  | behave behaviour => exact .behave cluster behaviour
  | forget => exact .forget cluster

theorem Step.exists_occurs (step : Step cluster next) : ∃ event, Occurs cluster event next := by
  cases step with
  | createDeployment deployment => exact ⟨_, .createDeployment cluster deployment⟩
  | replaceDeployment deployment => exact ⟨_, .replaceDeployment cluster deployment⟩
  | deleteDeployment name => exact ⟨_, .deleteDeployment cluster name⟩
  | createService service => exact ⟨_, .createService cluster service⟩
  | replaceService service => exact ⟨_, .replaceService cluster service⟩
  | deleteService name => exact ⟨_, .deleteService cluster name⟩
  | createClaim claim => exact ⟨_, .createClaim cluster claim⟩
  | listDeployments selector => exact ⟨_, .listDeployments cluster selector⟩
  | getService name => exact ⟨_, .getService cluster name⟩
  | getClaim name => exact ⟨_, .getClaim cluster name⟩
  | listPods selector => exact ⟨_, .listPods cluster selector⟩
  | deletePod name => exact ⟨_, .deletePod cluster name⟩
  | watchPods selector => exact ⟨_, .watchPods cluster selector⟩
  | exec pod container program => exact ⟨_, .exec cluster pod container program⟩
  | closeWatch number => exact ⟨_, .closeWatch cluster number⟩
  | addPod pod => exact ⟨_, .addPod cluster pod⟩
  | behave behaviour => exact ⟨_, .behave cluster behaviour⟩
  | forget => exact ⟨_, .forget cluster⟩

/-- The clusters that can come about are those that runs lead to. -/
theorem reachable_iff_exists_run :
    cluster.Reachable ↔ ∃ phase events, Run (.empty phase) events cluster := by
  constructor
  · intro reached
    induction reached with
    | empty phase => exact ⟨phase, [], .nil⟩
    | step _ step ih =>
      obtain ⟨phase, events, run⟩ := ih
      obtain ⟨event, occurs⟩ := step.exists_occurs
      exact ⟨phase, events ++ [event], run.snoc occurs⟩
  · rintro ⟨phase, events, run⟩
    induction run with
    | nil => exact .empty phase
    | snoc _ occurs ih => exact ih.step occurs.step

/-! ### What an event does -/

/-- An object gets stored in its place, with the next version. -/
structure Stores (before : ClusterObjects) (object : ClusterObject) (after : ClusterObjects) :
    Prop where
  version : object.version = some before.nextVersion
  counted : after.version = before.version + 1
  at? : ∀ place, after.at? place =
    if place = object.place then some object else before.at? place

/-- An event stores nothing, and clears a place at most. -/
structure Clears (before : ClusterObjects) (event : ClusterEvent) (after : ClusterObjects) :
    Prop where
  written : event.written? = none
  counted : after.version = before.version
  at? : ∀ place, after.at? place =
    if event.cleared? = some place then none else before.at? place

section

variable {objects : ClusterObjects}

/-- What is found after an insertion, as an object of its kind. -/
theorem map_get?_insert {α : Type} (ofKind : α → ClusterObject) (map : OrderedMap String α)
    (key name : String) (value : α) :
    ((map.insert key value).get? name).map ofKind =
      if name = key then some (ofKind value) else (map.get? name).map ofKind := by
  rw [OrderedMap.get?_insert]
  exact apply_ite (Option.map ofKind) _ _ _

theorem stores_storeDeployment (phase : Option String) (deployment : Deployment) :
    Stores objects (.deployment (objects.storeDeployment phase deployment).1)
      (objects.storeDeployment phase deployment).2 where
  version := rfl
  counted := ClusterObjects.schedulePod_version
  at? := by
    rintro ⟨kind, name⟩
    cases kind with
    | deployment =>
      simp only [ClusterObjects.at?, ClusterObjects.storeDeployment_deployments, map_get?_insert,
        ClusterObject.place, Place.mk.injEq, ClusterObject.kind, true_and]
      rfl
    | service => simp [ClusterObjects.at?, ClusterObject.place, ClusterObject.kind]
    | claim => simp [ClusterObjects.at?, ClusterObject.place, ClusterObject.kind]

theorem stores_storeService (service : Service) :
    Stores objects (.service (objects.storeService service).1)
      (objects.storeService service).2 where
  version := rfl
  counted := rfl
  at? := by
    rintro ⟨kind, name⟩
    cases kind with
    | service =>
      simp only [ClusterObjects.at?, ClusterObjects.storeService_services, map_get?_insert,
        ClusterObject.place, Place.mk.injEq, ClusterObject.kind, true_and]
      rfl
    | deployment => simp [ClusterObjects.at?, ClusterObject.place, ClusterObject.kind]
    | claim => simp [ClusterObjects.at?, ClusterObject.place, ClusterObject.kind]

/-- The address that a new Service gets is no matter of its version or its place. -/
theorem stores_withService (service : Service) :
    Stores objects (.service (objects.withService service).1)
      (objects.withService service).2 := by
  have stores := @stores_storeService { objects with address := objects.address + 1 }
    (objects.addressed service)
  exact ⟨stores.version, stores.counted, stores.at?⟩

theorem stores_withClaim (claim : Claim) :
    Stores objects (.claim (objects.withClaim claim).1) (objects.withClaim claim).2 where
  version := rfl
  counted := rfl
  at? := by
    rintro ⟨kind, name⟩
    cases kind with
    | claim =>
      simp only [ClusterObjects.at?, ClusterObjects.withClaim_claims, map_get?_insert,
        ClusterObject.place, Place.mk.injEq, ClusterObject.kind, true_and]
      rfl
    | deployment => simp [ClusterObjects.at?, ClusterObject.place, ClusterObject.kind]
    | service => simp [ClusterObjects.at?, ClusterObject.place, ClusterObject.kind]

end

/-! #### Answers -/

/-- The answer to an operation. -/
theorem answer_transact {α : Type} {call : Call}
    {outcome : ClusterBehaviour → ClusterObjects → Except Failure (α × ClusterObjects)} :
    (transact call outcome cluster).1 = match cluster.injected? call.operation with
      | some failure => .error failure
      | none => (outcome cluster.behaviour cluster.objects).map (·.1) := by
  rw [transact_run]
  cases cluster.injected? call.operation with
  | some failure => rfl
  | none => cases outcome cluster.behaviour cluster.objects <;> rfl

/-- The answer to a replacement. -/
def replacementAnswer (cluster : MemoryCluster) (sent : ClusterObject) :
    Except Failure ClusterObject :=
  match sent.kind.replacement?.bind cluster.injected? with
  | some failure => .error failure
  | none => sent.replacementAnswer (cluster.objects.at? sent.place) cluster.objects.nextVersion

theorem answer_replaceDeployment (deployment : Deployment) :
    (client.replaceDeployment deployment cluster).1.map .deployment =
      cluster.replacementAnswer (.deployment deployment) := by
  simp only [client_replaceDeployment, answer_transact, replacementAnswer, ClusterObject.kind,
    ObjectKind.replacement?, Option.bind_some]
  cases cluster.injected? .replaceDeployment with
  | some failure => rfl
  | none =>
    simp only [ClusterObjects.replaceDeployment, ClusterObject.replacementAnswer,
      ClusterObjects.at?, ClusterObject.place, ClusterObject.kind, ClusterObject.metadata]
    cases cluster.objects.deployments.get? deployment.metadata.nameOrEmpty with
    | none => rfl
    | some live =>
      by_cases same : live.metadata.resourceVersion = deployment.metadata.resourceVersion
      · simp [ClusterObject.refusal?, ClusterObject.version, ClusterObject.metadata, same,
          ClusterObject.address?, Except.map, ClusterObjects.storeDeployment,
          ClusterObject.stamped]
      · simp [ClusterObject.refusal?, ClusterObject.version, ClusterObject.metadata, same,
          Except.map, ClusterObject.conflict, ObjectKind.resource, ClusterObject.kind]

theorem answer_replaceService (service : Service) :
    (client.replaceService service cluster).1.map .service =
      cluster.replacementAnswer (.service service) := by
  simp only [client_replaceService, answer_transact, replacementAnswer, ClusterObject.kind,
    ObjectKind.replacement?, Option.bind_some]
  cases cluster.injected? .replaceService with
  | some failure => rfl
  | none =>
    simp only [ClusterObjects.replaceService, ClusterObject.replacementAnswer,
      ClusterObjects.at?, ClusterObject.place, ClusterObject.kind, ClusterObject.metadata]
    cases cluster.objects.services.get? service.metadata.nameOrEmpty with
    | none => rfl
    | some live =>
      by_cases same : live.metadata.resourceVersion = service.metadata.resourceVersion
      · by_cases kept : live.clusterIP? = service.clusterIP?
        · simp [ClusterObject.refusal?, ClusterObject.version, ClusterObject.metadata, same,
            ClusterObject.address?, kept, Except.map, ClusterObjects.storeService,
            ClusterObject.stamped]
        · simp [ClusterObject.refusal?, ClusterObject.version, ClusterObject.metadata, same,
            ClusterObject.address?, kept, Except.map, ClusterObject.moved]
      · simp [ClusterObject.refusal?, ClusterObject.version, ClusterObject.metadata, same,
          Except.map, ClusterObject.conflict, ObjectKind.resource, ClusterObject.kind]

/-- A replacement is answered as the cluster behaves and as the live object allows. -/
theorem Occurs.replace_answer {sent : ClusterObject} {answer : Except Failure ClusterObject}
    (occurs : Occurs cluster (.replace sent answer) next) :
    answer = cluster.replacementAnswer sent := by
  cases occurs with
  | replaceDeployment deployment => exact answer_replaceDeployment deployment
  | replaceService service => exact answer_replaceService service

/-! #### Objects -/

/-- An event stores an object in its place, or it clears a place at most. -/
def WritesOrClears (before : ClusterObjects) (event : ClusterEvent) (after : ClusterObjects) :
    Prop :=
  (∃ object, event.written? = some object ∧ Stores before object after) ∨
    Clears before event after

section

variable {before after : ClusterObjects}

/-- What leaves the versioned objects alone clears nothing. -/
theorem Clears.of_same (written : event.written? = none) (cleared : event.cleared? = none)
    (counted : after.version = before.version)
    (deployments : after.deployments = before.deployments)
    (services : after.services = before.services) (claims : after.claims = before.claims) :
    Clears before event after where
  written := written
  counted := counted
  at? := by
    intro place
    rw [cleared, if_neg nofun]
    exact ClusterObjects.at?_congr deployments services claims place

/-- Where a write that comes to something has stored an object, it is an event that does. -/
theorem writesOrClears_of_transact {α : Type} {call : Call}
    {outcome : ClusterBehaviour → ClusterObjects → Except Failure (α × ClusterObjects)}
    {ofKind : α → ClusterObject} {event : Except Failure ClusterObject → ClusterEvent}
    (stored : ∀ object, (event (.ok object)).written? = some object)
    (failed : ∀ failure, (event (.error failure)).written? = none ∧
      (event (.error failure)).cleared? = none)
    (worked : ∀ value after, outcome cluster.behaviour cluster.objects = .ok (value, after) →
      Stores cluster.objects (ofKind value) after) :
    WritesOrClears cluster.objects (event ((transact call outcome cluster).1.map ofKind))
      (transact call outcome cluster).2.objects := by
  have unchanged (failure : Failure) : WritesOrClears cluster.objects (event (.error failure))
      cluster.objects :=
    .inr (.of_same (failed failure).1 (failed failure).2 rfl rfl rfl rfl)
  rw [transact_run]
  cases cluster.injected? call.operation with
  | some failure => exact unchanged failure
  | none =>
    cases result : outcome cluster.behaviour cluster.objects with
    | error failure => exact unchanged failure
    | ok done =>
      obtain ⟨value, after⟩ := done
      exact .inl ⟨ofKind value, stored _, worked value after result⟩

end

/-- What is found after a removal, as an object of its kind. -/
theorem map_get?_erase {α : Type} (ofKind : α → ClusterObject) (map : OrderedMap String α)
    (key name : String) :
    ((map.erase key).get? name).map ofKind =
      if key = name then none else (map.get? name).map ofKind := by
  rw [OrderedMap.get?_erase]
  by_cases same : name = key
  · rw [if_pos same, if_pos same.symm, Option.map_none]
  · rw [if_neg same, if_neg (Ne.symm same)]

theorem clears_deleteDeployment (name : String) :
    Clears cluster.objects (.delete ⟨.deployment, name⟩ (client.deleteDeployment name cluster).1)
      (client.deleteDeployment name cluster).2.objects := by
  simp only [client_deleteDeployment, transact_run]
  cases cluster.injected? .deleteDeployment with
  | some failure => exact .of_same rfl rfl rfl rfl rfl rfl
  | none =>
    rw [ClusterObjects.deleteDeployment]
    cases cluster.objects.deployments.contains name with
    | false => exact .of_same rfl rfl rfl rfl rfl rfl
    | true =>
      refine ⟨rfl, rfl, ?_⟩
      rintro ⟨kind, other⟩
      cases kind <;> simp [ClusterObjects.at?, ClusterEvent.cleared?, map_get?_erase]

theorem clears_deleteService (name : String) :
    Clears cluster.objects (.delete ⟨.service, name⟩ (client.deleteService name cluster).1)
      (client.deleteService name cluster).2.objects := by
  simp only [client_deleteService, transact_run]
  cases cluster.injected? .deleteService with
  | some failure => exact .of_same rfl rfl rfl rfl rfl rfl
  | none =>
    rw [ClusterObjects.deleteService]
    cases cluster.objects.services.contains name with
    | false => exact .of_same rfl rfl rfl rfl rfl rfl
    | true =>
      refine ⟨rfl, rfl, ?_⟩
      rintro ⟨kind, other⟩
      cases kind <;> simp [ClusterObjects.at?, ClusterEvent.cleared?, map_get?_erase]

/-- Looking leaves the objects as they are. -/
theorem clears_inspect {α : Type} (call : Call) (view : ClusterObjects → α) :
    Clears cluster.objects .other (inspect call view cluster).2.objects := by
  rw [inspect_eq, after_transact, ite_self]
  exact .of_same rfl rfl rfl rfl rfl rfl

theorem clears_watchPods (selector : String) :
    Clears cluster.objects .other (client.watchPods selector cluster).2.objects := by
  rcases watchPods_cases cluster selector with ⟨failure, run⟩ | ⟨watch, run⟩
  · rw [run]
    exact .of_same rfl rfl rfl rfl rfl rfl
  · rw [run]
    exact .of_same rfl rfl rfl rfl rfl rfl

/-- What any event does to the objects. -/
theorem Occurs.writesOrClears (occurs : Occurs cluster event next) :
    WritesOrClears cluster.objects event next.objects := by
  have failedCreate (sent : ClusterObject) (failure : Failure) :
      (ClusterEvent.create sent (.error failure)).written? = none ∧
        (ClusterEvent.create sent (.error failure)).cleared? = none := ⟨rfl, rfl⟩
  have failedReplace (sent : ClusterObject) (failure : Failure) :
      (ClusterEvent.replace sent (.error failure)).written? = none ∧
        (ClusterEvent.replace sent (.error failure)).cleared? = none := ⟨rfl, rfl⟩
  cases occurs with
  | createDeployment deployment =>
    rw [client_createDeployment]
    refine writesOrClears_of_transact (fun _ => rfl) (failedCreate _) fun _ _ created => ?_
    obtain ⟨rfl, rfl⟩ := ClusterObjects.createDeployment_eq_ok created
    exact stores_storeDeployment _ deployment
  | replaceDeployment deployment =>
    rw [client_replaceDeployment]
    refine writesOrClears_of_transact (fun _ => rfl) (failedReplace _) fun _ _ replaced => ?_
    obtain ⟨rfl, rfl⟩ := ClusterObjects.replaceDeployment_eq_ok replaced
    exact stores_storeDeployment _ deployment
  | createService service =>
    rw [client_createService]
    refine writesOrClears_of_transact (fun _ => rfl) (failedCreate _) fun _ _ created => ?_
    obtain ⟨rfl, rfl⟩ := ClusterObjects.createService_eq_ok created
    exact stores_withService service
  | replaceService service =>
    rw [client_replaceService]
    refine writesOrClears_of_transact (fun _ => rfl) (failedReplace _) fun _ _ replaced => ?_
    obtain ⟨rfl, rfl⟩ := ClusterObjects.replaceService_eq_ok replaced
    exact stores_storeService service
  | createClaim claim =>
    rw [client_createClaim]
    refine writesOrClears_of_transact (fun _ => rfl) (failedCreate _) fun _ _ created => ?_
    obtain ⟨rfl, rfl⟩ := ClusterObjects.createClaim_eq_ok created
    exact stores_withClaim claim
  | deleteDeployment name => exact .inr (clears_deleteDeployment name)
  | deleteService name => exact .inr (clears_deleteService name)
  | listDeployments selector => exact .inr (clears_inspect _ _)
  | getService name => exact .inr (clears_inspect _ _)
  | getClaim name => exact .inr (clears_inspect _ _)
  | listPods selector => exact .inr (clears_inspect _ _)
  | deletePod name =>
    rw [objects_deletePod]
    exact .inr (.of_same rfl rfl rfl rfl rfl rfl)
  | watchPods selector => exact .inr (clears_watchPods selector)
  | exec pod container program =>
    rw [exec_eq]
    exact .inr (.of_same rfl rfl rfl rfl rfl rfl)
  | closeWatch number => exact .inr (.of_same rfl rfl rfl rfl rfl rfl)
  | addPod pod => exact .inr (.of_same rfl rfl rfl rfl rfl rfl)
  | behave behaviour => exact .inr (.of_same rfl rfl rfl rfl rfl rfl)
  | forget => exact .inr (.of_same rfl rfl rfl rfl rfl rfl)

end MemoryCluster

end DevfilePush
