import DevfilePush.Proofs.Cluster.Objects
import DevfilePush.Proofs.Session

/-!
What each operation of a cluster in memory ensures.

An operation is recorded, then it may be made to fail, and otherwise it does its work on
the objects or refuses to. `transact_ensures` says this once for all of them. The lemmas
after it name, for each operation, what has to hold for it to be refused and what it
leaves behind. Assertions are about the objects, in a setting that none of these
operations changes: how the cluster behaves, and which programs have been run in it.
-/

namespace DevfilePush

/-- No operation is made to fail. -/
def ClusterBehaviour.IsCalm (behaviour : ClusterBehaviour) : Prop :=
  ∀ operation, behaviour.failures.get? operation = none

/-- Scheduled pods run, and one operation at most is made to fail. -/
def ClusterBehaviour.running (failing : Option Operation) : ClusterBehaviour where
  scheduledPodPhase := some Kubernetes.Pod.runningPhase
  execResponses := .empty
  failures := match failing with
    | some operation => OrderedMap.empty.insert operation "not now"
    | none => .empty

theorem ClusterBehaviour.isCalm_running : (running none).IsCalm :=
  fun _ => rfl

namespace MemoryCluster

open Kubernetes (Claim Deployment Pod Service)
open Session (Ensures)

/-! ### Assertions -/

/-- The programs that have been run, in order. -/
def execCalls (cluster : MemoryCluster) : List Call :=
  cluster.history.filter fun call => call.operation = .exec

/-- Recording a program adds to those that have been run. -/
theorem execCalls_record {cluster : MemoryCluster} {call : Call} (isExec : call.operation = .exec) :
    (cluster.record call).execCalls = cluster.execCalls ++ [call] := by
  simp [execCalls, record, List.filter_append, isExec]

/-- What work on the objects leaves alone. -/
structure Setting where
  behaviour : ClusterBehaviour
  execCalls : List Call

/-- The setting that a cluster is in. -/
def setting (cluster : MemoryCluster) : Setting :=
  ⟨cluster.behaviour, cluster.execCalls⟩

variable {α : Type} {setting : Setting} {pre : ClusterObjects → Prop}
  {fail : Failure → ClusterObjects → Prop}

/-- The cluster is in the given setting, and its objects satisfy `holds`. -/
def Under (setting : Setting) (holds : ClusterObjects → Prop) (cluster : MemoryCluster) : Prop :=
  cluster.setting = setting ∧ holds cluster.objects

/-- Recording anything but a program leaves the setting as it is. -/
theorem setting_record {cluster : MemoryCluster} {call : Call} (looks : call.operation ≠ .exec) :
    (cluster.record call).setting = cluster.setting := by
  simp [MemoryCluster.setting, execCalls, record, List.filter_append, looks]

/-- Where `pre` holds and an operation is made to fail, `fail` holds of the failure. -/
def Interruptible (behaviour : ClusterBehaviour) (pre : ClusterObjects → Prop)
    (fail : Failure → ClusterObjects → Prop) : Prop :=
  ∀ operation message, behaviour.failures.get? operation = some message →
    ∀ objects, pre objects → fail (.cluster (.injected message)) objects

/-- An operation: it fails because it is made to, it refuses its work, or it has done it. -/
theorem transact_ensures {call : Call}
    {outcome : ClusterBehaviour → ClusterObjects → Except Failure (α × ClusterObjects)}
    {post : α → ClusterObjects → Prop} (notExec : call.operation ≠ .exec)
    (stopped : Interruptible setting.behaviour pre fail)
    (worked : ∀ objects, pre objects → match outcome setting.behaviour objects with
      | .ok (value, after) => post value after
      | .error failure => fail failure objects) :
    Ensures (Under setting pre) (transact call outcome) (fun value => Under setting (post value))
      (fun failure => Under setting (fail failure)) := by
  rintro cluster ⟨rfl, holds⟩
  have ends : match outcome cluster.behaviour cluster.objects with
      | .ok (value, after) => post value after
      | .error failure => fail failure cluster.objects := worked cluster.objects holds
  have recorded : (cluster.record call).setting = cluster.setting := setting_record notExec
  rw [transact_run, injected?]
  cases injected : cluster.behaviour.failures.get? call.operation with
  | some message => exact ⟨recorded, stopped _ _ injected _ holds⟩
  | none =>
    rw [Option.map_none]
    cases result : outcome cluster.behaviour cluster.objects with
    | error failure =>
      rw [result] at ends
      exact ⟨recorded, ends⟩
    | ok done =>
      rw [result] at ends
      exact ⟨recorded, ends⟩

/-- An operation that only looks. -/
theorem inspect_ensures {call : Call} {view : ClusterObjects → α}
    {post : α → ClusterObjects → Prop} (notExec : call.operation ≠ .exec)
    (stopped : Interruptible setting.behaviour pre fail)
    (seen : ∀ objects, pre objects → post (view objects) objects) :
    Ensures (Under setting pre) (inspect call view) (fun value => Under setting (post value))
      (fun failure => Under setting (fail failure)) := by
  rw [inspect_eq]
  exact transact_ensures notExec stopped seen

/-! ### Deployments -/

theorem listDeployments_ensures {selector : String} {post : List Deployment → ClusterObjects → Prop}
    (stopped : Interruptible setting.behaviour pre fail)
    (seen : ∀ objects, pre objects → post (objects.deployments.values.filter fun deployment =>
      matchesSelector deployment.metadata.labels selector) objects) :
    Ensures (Under setting pre) (client.listDeployments selector)
      (fun found => Under setting (post found)) (fun failure => Under setting (fail failure)) :=
  inspect_ensures (by simp) stopped seen

/-- A Deployment is created where none of its name is, or refused. -/
theorem createDeployment_ensures {deployment : Deployment}
    {post : Deployment → ClusterObjects → Prop} (stopped : Interruptible setting.behaviour pre fail)
    (refused : ∀ objects failure, pre objects →
      (∃ live, objects.deployments.get? deployment.metadata.nameOrEmpty = some live) →
      fail (.cluster failure) objects)
    (stored : ∀ objects, pre objects →
      objects.deployments.get? deployment.metadata.nameOrEmpty = none →
      post (objects.storeDeployment setting.behaviour.scheduledPodPhase deployment).1
        (objects.storeDeployment setting.behaviour.scheduledPodPhase deployment).2) :
    Ensures (Under setting pre) (client.createDeployment deployment)
      (fun created => Under setting (post created))
      (fun failure => Under setting (fail failure)) := by
  rw [client_createDeployment]
  refine transact_ensures (by simp) stopped ?_
  intro objects holds
  cases live : objects.deployments.get? deployment.metadata.nameOrEmpty with
  | some live' =>
    have refusal : objects.createDeployment setting.behaviour.scheduledPodPhase deployment =
        .error (alreadyExists "deployments.apps" deployment.metadata.nameOrEmpty) := by
      simp [ClusterObjects.createDeployment, OrderedMap.contains, live]
    rw [refusal]
    exact refused objects _ holds ⟨live', live⟩
  | none =>
    rw [ClusterObjects.createDeployment_of_free live]
    exact stored objects holds live

/-- A Deployment replaces the one of its name if it is based on its version, or is
refused. -/
theorem replaceDeployment_ensures {deployment : Deployment}
    {post : Deployment → ClusterObjects → Prop} (stopped : Interruptible setting.behaviour pre fail)
    (refused : ∀ objects failure, pre objects →
      (∀ live, objects.deployments.get? deployment.metadata.nameOrEmpty = some live →
        live.metadata.resourceVersion ≠ deployment.metadata.resourceVersion) →
      fail (.cluster failure) objects)
    (stored : ∀ objects live, pre objects →
      objects.deployments.get? deployment.metadata.nameOrEmpty = some live →
      post (objects.storeDeployment setting.behaviour.scheduledPodPhase deployment).1
        (objects.storeDeployment setting.behaviour.scheduledPodPhase deployment).2) :
    Ensures (Under setting pre) (client.replaceDeployment deployment)
      (fun replaced => Under setting (post replaced))
      (fun failure => Under setting (fail failure)) := by
  rw [client_replaceDeployment]
  refine transact_ensures (by simp) stopped ?_
  intro objects holds
  cases live : objects.deployments.get? deployment.metadata.nameOrEmpty with
  | none =>
    have refusal : objects.replaceDeployment setting.behaviour.scheduledPodPhase deployment =
        .error (missingObject "Deployment" deployment.metadata.nameOrEmpty) := by
      simp [ClusterObjects.replaceDeployment, live]
    rw [refusal]
    exact refused objects _ holds (by simp [live])
  | some live' =>
    by_cases same : live'.metadata.resourceVersion = deployment.metadata.resourceVersion
    · rw [ClusterObjects.replaceDeployment_of_live live same]
      exact stored objects live' holds live
    · have refusal : objects.replaceDeployment setting.behaviour.scheduledPodPhase deployment =
          .error (modifiedMeanwhile "deployments.apps" deployment.metadata.nameOrEmpty) := by
        simp [ClusterObjects.replaceDeployment, live, same]
      rw [refusal]
      exact refused objects _ holds (by simpa [live] using same)

/-! ### Services -/

theorem getService_ensures {name : String} {post : Option Service → ClusterObjects → Prop}
    (stopped : Interruptible setting.behaviour pre fail)
    (seen : ∀ objects, pre objects → post (objects.services.get? name) objects) :
    Ensures (Under setting pre) (client.getService name)
      (fun found => Under setting (post found)) (fun failure => Under setting (fail failure)) :=
  inspect_ensures (by simp) stopped seen

/-- A Service is created where none of its name is, or refused. -/
theorem createService_ensures {service : Service} {post : Service → ClusterObjects → Prop}
    (stopped : Interruptible setting.behaviour pre fail)
    (refused : ∀ objects failure, pre objects →
      (∃ live, objects.services.get? service.metadata.nameOrEmpty = some live) →
      fail (.cluster failure) objects)
    (stored : ∀ objects, pre objects →
      objects.services.get? service.metadata.nameOrEmpty = none →
      post (objects.withService service).1 (objects.withService service).2) :
    Ensures (Under setting pre) (client.createService service)
      (fun created => Under setting (post created))
      (fun failure => Under setting (fail failure)) := by
  rw [client_createService]
  refine transact_ensures (by simp) stopped ?_
  intro objects holds
  cases live : objects.services.get? service.metadata.nameOrEmpty with
  | some live' =>
    have refusal : objects.createService service =
        .error (alreadyExists "services" service.metadata.nameOrEmpty) := by
      simp [ClusterObjects.createService, OrderedMap.contains, live]
    rw [refusal]
    exact refused objects _ holds ⟨live', live⟩
  | none =>
    rw [ClusterObjects.createService_of_free live]
    exact stored objects holds live

/-- A Service replaces the one of its name if it is based on its version and has its
address, or is refused. -/
theorem replaceService_ensures {service : Service} {post : Service → ClusterObjects → Prop}
    (stopped : Interruptible setting.behaviour pre fail)
    (refused : ∀ objects failure, pre objects →
      (∀ live, objects.services.get? service.metadata.nameOrEmpty = some live →
        live.metadata.resourceVersion = service.metadata.resourceVersion →
        live.clusterIP? ≠ service.clusterIP?) →
      fail (.cluster failure) objects)
    (stored : ∀ objects live, pre objects →
      objects.services.get? service.metadata.nameOrEmpty = some live →
      live.clusterIP? = service.clusterIP? →
      post (objects.storeService service).1 (objects.storeService service).2) :
    Ensures (Under setting pre) (client.replaceService service)
      (fun replaced => Under setting (post replaced))
      (fun failure => Under setting (fail failure)) := by
  rw [client_replaceService]
  refine transact_ensures (by simp) stopped ?_
  intro objects holds
  cases live : objects.services.get? service.metadata.nameOrEmpty with
  | none =>
    have refusal : objects.replaceService service =
        .error (missingObject "Service" service.metadata.nameOrEmpty) := by
      simp [ClusterObjects.replaceService, live]
    rw [refusal]
    exact refused objects _ holds (by simp [live])
  | some live' =>
    by_cases same : live'.metadata.resourceVersion = service.metadata.resourceVersion
    · by_cases kept : live'.clusterIP? = service.clusterIP?
      · rw [ClusterObjects.replaceService_of_live live same kept]
        exact stored objects live' holds live kept
      · have refusal : objects.replaceService service =
            .error (addressChanged service.metadata.nameOrEmpty service.clusterIP?) := by
          simp [ClusterObjects.replaceService, live, same, kept]
        rw [refusal]
        exact refused objects _ holds (by simpa [live, same] using kept)
    · have refusal : objects.replaceService service =
          .error (modifiedMeanwhile "services" service.metadata.nameOrEmpty) := by
        simp [ClusterObjects.replaceService, live, same]
      rw [refusal]
      refine refused objects _ holds ?_
      intro other isLive based
      exact absurd (Option.some.inj (live.symm.trans isLive) ▸ based) same

/-- A Service is deleted where it is, or the deletion is refused. -/
theorem deleteService_ensures {name : String} {post : Unit → ClusterObjects → Prop}
    (stopped : Interruptible setting.behaviour pre fail)
    (refused : ∀ objects failure, pre objects → objects.services.get? name = none →
      fail (.cluster failure) objects)
    (deleted : ∀ objects, pre objects → (∃ live, objects.services.get? name = some live) →
      post () { objects with services := objects.services.erase name }) :
    Ensures (Under setting pre) (client.deleteService name)
      (fun done => Under setting (post done)) (fun failure => Under setting (fail failure)) := by
  rw [client_deleteService]
  refine transact_ensures (by simp) stopped ?_
  intro objects holds
  cases live : objects.services.get? name with
  | none =>
    have refusal : objects.deleteService name = .error (missingObject "Service" name) := by
      simp [ClusterObjects.deleteService, OrderedMap.contains, live]
    rw [refusal]
    exact refused objects _ holds live
  | some live' =>
    have done : objects.deleteService name =
        .ok ((), { objects with services := objects.services.erase name }) := by
      simp [ClusterObjects.deleteService, OrderedMap.contains, live]
    rw [done]
    exact deleted objects holds ⟨live', live⟩

/-! ### Claims -/

theorem getClaim_ensures {name : String} {post : Option Claim → ClusterObjects → Prop}
    (stopped : Interruptible setting.behaviour pre fail)
    (seen : ∀ objects, pre objects → post (objects.claims.get? name) objects) :
    Ensures (Under setting pre) (client.getClaim name)
      (fun found => Under setting (post found)) (fun failure => Under setting (fail failure)) :=
  inspect_ensures (by simp) stopped seen

/-- A claim is created where none of its name is, or refused. -/
theorem createClaim_ensures {claim : Claim} {post : Claim → ClusterObjects → Prop}
    (stopped : Interruptible setting.behaviour pre fail)
    (refused : ∀ objects failure, pre objects →
      (∃ live, objects.claims.get? claim.metadata.nameOrEmpty = some live) →
      fail (.cluster failure) objects)
    (stored : ∀ objects, pre objects →
      objects.claims.get? claim.metadata.nameOrEmpty = none →
      post (objects.withClaim claim).1 (objects.withClaim claim).2) :
    Ensures (Under setting pre) (client.createClaim claim)
      (fun created => Under setting (post created))
      (fun failure => Under setting (fail failure)) := by
  rw [client_createClaim]
  refine transact_ensures (by simp) stopped ?_
  intro objects holds
  cases live : objects.claims.get? claim.metadata.nameOrEmpty with
  | some live' =>
    have refusal : objects.createClaim claim =
        .error (alreadyExists "persistentvolumeclaims" claim.metadata.nameOrEmpty) := by
      simp [ClusterObjects.createClaim, OrderedMap.contains, live]
    rw [refusal]
    exact refused objects _ holds ⟨live', live⟩
  | none =>
    rw [ClusterObjects.createClaim_of_free live]
    exact stored objects holds live

/-! ### Pods -/

theorem listPods_ensures {selector : String} {post : List Pod → ClusterObjects → Prop}
    (stopped : Interruptible setting.behaviour pre fail)
    (seen : ∀ objects, pre objects → post (objects.pods.values.filter fun pod =>
      matchesSelector pod.metadata.labels selector) objects) :
    Ensures (Under setting pre) (client.listPods selector)
      (fun found => Under setting (post found)) (fun failure => Under setting (fail failure)) :=
  inspect_ensures (by simp) stopped seen

/-! ### Watches -/

/-- The watch that is opened on some objects: it reports the pods that are there, and
nothing comes after them. -/
def watchOf (objects : ClusterObjects) (selector : String) : PodWatch :=
  ⟨(objects.pods.values.filter fun pod => matchesSelector pod.metadata.labels selector).map
    .observed, [], false⟩

theorem watchPods_ensures {selector : String} {post : PodWatch → ClusterObjects → Prop}
    (stopped : Interruptible setting.behaviour pre fail)
    (opened : ∀ objects, pre objects →
      post (watchOf objects selector) (objects.openWatch selector).2) :
    Ensures (Under setting pre) (client.watchPods selector)
      (fun watch => Under setting (post watch)) (fun failure => Under setting (fail failure)) := by
  have first : Ensures (Under setting pre) (openWatch selector)
      (fun watch => Under setting (post ⟨watch.reported.map .observed, [], false⟩))
      (fun failure => Under setting (fail failure)) := by
    rw [openWatch_eq]
    exact transact_ensures (by simp) stopped opened
  exact first.bind fun watch => .pure fun _ holds => holds

theorem endWatch_ensures {waited : Nat} {post : ClusterObjects → Prop}
    (closed : ∀ objects watches, pre objects → post { objects with watches := watches }) :
    Ensures (Under setting pre) (liftM (client.endWatch waited))
      (fun _ => Under setting post) (fun failure => Under setting (fail failure)) := by
  refine .lift ?_
  rintro cluster ⟨rfl, holds⟩
  simp only [client, Session.modify_eq]
  cases cluster.objects.watches.reverse.find? (·.isKept) with
  | none => exact ⟨rfl, closed cluster.objects cluster.objects.watches holds⟩
  | some watch => exact ⟨rfl, closed cluster.objects _ holds⟩

/-! ### Programs -/

/-- What comes of running a program. -/
def programResult (behaviour : ClusterBehaviour) (objects : ClusterObjects)
    (pod container : String) (program : List String) : ExecResult :=
  match behaviour.failures.get? .exec with
  | some message => { lines := [], failure := some (.cluster (.injected message)) }
  | none => runProgram behaviour objects pod container program

/-- Running a program is recorded and changes nothing else. -/
theorem exec_eq {cluster : MemoryCluster} {pod container : String} {program : List String} :
    client.exec pod container program cluster =
      (programResult cluster.behaviour cluster.objects pod container program,
        cluster.record ⟨.exec, pod ++ "/" ++ container, program⟩) := by
  simp only [client, exec, bind, StateT.bind, Session.modify_eq, get, getThe,
    MonadStateOf.get, StateT.get, pure, injected?, record, programResult]
  cases cluster.behaviour.failures.get? .exec with
  | some message => rfl
  | none => rfl

/-- A program fails as the cluster does, never as the devfile. -/
theorem exists_cluster_of_programResult {behaviour : ClusterBehaviour} {objects : ClusterObjects}
    {pod container : String} {program : List String} {failure : Failure}
    (failed : (programResult behaviour objects pod container program).failure = some failure) :
    ∃ cause, failure = .cluster cause := by
  unfold programResult at failed
  split at failed
  · cases failed
    exact ⟨_, rfl⟩
  · unfold runProgram at failed
    split at failed
    · dsimp only at failed
      split at failed
      · cases failed
      · cases failed
        exact ⟨_, rfl⟩
    · cases failed
      exact ⟨_, rfl⟩

theorem execOrFail_ensures {pod container : String} {program : List String}
    {pre : MemoryCluster → Prop} {post : List String → MemoryCluster → Prop}
    {fail : Failure → MemoryCluster → Prop}
    (failed : ∀ cluster failure, pre cluster →
      (programResult cluster.behaviour cluster.objects pod container program).failure =
        some failure →
      fail failure (cluster.record ⟨.exec, pod ++ "/" ++ container, program⟩))
    (ended : ∀ cluster lines, pre cluster →
      (programResult cluster.behaviour cluster.objects pod container program).failure = none →
      post lines (cluster.record ⟨.exec, pod ++ "/" ++ container, program⟩)) :
    Ensures pre (client.execOrFail pod container program) post fail := by
  have ran : Ensures pre (liftM (client.exec pod container program))
      (fun result after => ∃ cluster, pre cluster ∧
        result = programResult cluster.behaviour cluster.objects pod container program ∧
        after = cluster.record ⟨.exec, pod ++ "/" ++ container, program⟩) fail := by
    refine .lift ?_
    intro cluster holds
    rw [exec_eq]
    exact ⟨cluster, holds, rfl, rfl⟩
  refine ran.bind fun result => ?_
  cases isFailure : result.failure with
  | some failure =>
    refine .throw ?_
    rintro after ⟨cluster, holds, rfl, rfl⟩
    exact failed cluster failure holds isFailure
  | none =>
    refine .pure ?_
    rintro after ⟨cluster, holds, rfl, rfl⟩
    exact ended cluster _ holds isFailure

end MemoryCluster

end DevfilePush
