import DevfilePush.Proofs.Cluster.Calm
import DevfilePush.Proofs.Cluster.Reachable
import DevfilePush.Proofs.Cluster.Selector
import DevfilePush.Proofs.Push.Reconcile
import DevfilePush.Proofs.Push.ServiceAgreement
import DevfilePush.Proofs.Push.SoleComponent

/-!
Reconciling again.

What a successful run leaves behind is what the next one finds (`Standing`): its own
Deployment among all that the selector matches, its claims, and its Service if it is to have
one. So the next run only replaces, each object over its version and the Service at its
address, by what is there already (`reconcile_performs_of_standing`). The pod is scheduled
anew, after the same other pods as before and in the same phase, and so the verdict on the
pods is the same (`exists_running_of_rescheduled`).
-/

namespace DevfilePush

open Kubernetes (Claim Deployment Pod Service)

/-! ### Rescheduled pods -/

namespace ClusterObjects

/-- The pods that do not belong to `owner`. -/
def otherPods (objects : ClusterObjects) (owner : String) : OrderedMap String Pod :=
  objects.pods.filterKeys fun name => !isPodOf owner name

variable {objects : ClusterObjects} {deployment : Deployment} {phase : String}

/-- The pod that is scheduled comes after those of others. -/
theorem values_schedulePod :
    (objects.schedulePod (some phase) deployment).pods.values =
      (objects.otherPods deployment.metadata.nameOrEmpty).values ++
        [scheduledPod deployment phase (objects.podCount + 1)] := by
  rw [schedulePod_pods]
  refine OrderedMap.values_insert_of_get?_eq_none ?_
  rw [OrderedMap.get?_filterKeys, SoleComponent.isPodOf_scheduled]
  rfl

/-- Scheduling a pod leaves those of others alone. -/
theorem otherPods_schedulePod :
    (objects.schedulePod (some phase) deployment).otherPods deployment.metadata.nameOrEmpty =
      objects.otherPods deployment.metadata.nameOrEmpty := by
  rw [otherPods, schedulePod_pods, OrderedMap.filterKeys_insert_of_dropped,
    OrderedMap.filterKeys_filterKeys]
  · simp only [Bool.and_self, otherPods]
  · rw [SoleComponent.isPodOf_scheduled]
    rfl

end ClusterObjects

namespace MemoryCluster

variable {objects before once twice : ClusterObjects} {selector : String} {timeout : Duration}
  {pod : Pod} {phase : Option String} {first second : Deployment}

/-- A pod is waited for with success exactly where the first pod to settle the matter runs. -/
theorem outcome_watchOf_ok_iff :
    ((watchOf objects selector).outcome selector timeout).2 = .ok pod ↔
      firstVerdict? (watchOf objects selector).ready = some (.ok pod) := by
  rw [outcome_watchOf]
  cases firstVerdict? (watchOf objects selector).ready with
  | none => exact ⟨nofun, nofun⟩
  | some verdict => exact ⟨congrArg some, Option.some.inj⟩

/-- A pod that comes last decides where the others settle nothing. -/
theorem firstVerdict?_ready_of_last {others : List Pod} {last : Pod}
    (pods : objects.pods.values = others ++ [last]) :
    firstVerdict? (watchOf objects selector).ready =
      (firstVerdict? ((others.filter fun pod =>
        matchesSelector pod.metadata.labels selector).map .observed)).or
          (if matchesSelector last.metadata.labels selector then
            (PodEvent.observed last).verdict? else none) := by
  simp only [firstVerdict?, watchOf, pods, List.filter_append, List.map_append,
    List.findSome?_append]
  congr 1
  by_cases isMatch : matchesSelector last.metadata.labels selector = true <;>
    simp [isMatch]

/-- A scheduled pod is settled by its phase alone. -/
theorem verdict?_scheduledPod {deployment : Deployment} {text : String} {number : UInt64}
    (verdict : (PodEvent.observed
      (ClusterObjects.scheduledPod deployment text number)).verdict? = some (.ok pod)) :
    text = Pod.runningPhase := by
  by_contra other
  have isPhase : (ClusterObjects.scheduledPod deployment text number).phase? = some text := rfl
  have kept : (ClusterObjects.scheduledPod deployment text number).metadata.deletionTimestamp =
    none := rfl
  simp only [PodEvent.verdict?, kept, isPhase, Option.some.injEq, other, if_false] at verdict
  split at verdict
  · cases verdict
  · split at verdict <;> cases verdict

/-- Where a pod is running once a Deployment has been scheduled, one is running when it is
scheduled again: the pods of others are the same, and they come first. -/
theorem exists_running_of_rescheduled
    (sameName : second.metadata.nameOrEmpty = first.metadata.nameOrEmpty)
    (sameLabels : second.templateLabels = first.templateLabels)
    (scheduled : once.pods = (before.schedulePod phase first).pods)
    (again : twice.pods = (once.schedulePod phase second).pods)
    (running : ((watchOf once selector).outcome selector timeout).2 = .ok pod) :
    ∃ pod', ((watchOf twice selector).outcome selector timeout).2 = .ok pod' := by
  cases phase with
  | none =>
    have samePods : twice.pods = once.pods := again
    have sameWatch : watchOf twice selector = watchOf once selector := by
      rw [watchOf, samePods]
      rfl
    exact ⟨pod, by rw [sameWatch, running]⟩
  | some text =>
    have others : once.otherPods first.metadata.nameOrEmpty =
        before.otherPods first.metadata.nameOrEmpty := by
      rw [ClusterObjects.otherPods, scheduled]
      exact ClusterObjects.otherPods_schedulePod
    have podsOnce : once.pods.values = (before.otherPods first.metadata.nameOrEmpty).values ++
        [ClusterObjects.scheduledPod first text (before.podCount + 1)] := by
      rw [scheduled, ClusterObjects.values_schedulePod]
    have podsTwice : twice.pods.values = (before.otherPods first.metadata.nameOrEmpty).values ++
        [ClusterObjects.scheduledPod second text (once.podCount + 1)] := by
      rw [again, ClusterObjects.values_schedulePod, sameName, others]
    have labelsOnce :
        (ClusterObjects.scheduledPod first text (before.podCount + 1)).metadata.labels =
          some first.templateLabels := rfl
    have labelsTwice :
        (ClusterObjects.scheduledPod second text (once.podCount + 1)).metadata.labels =
          some first.templateLabels := congrArg some sameLabels
    simp only [outcome_watchOf_ok_iff, firstVerdict?_ready_of_last podsOnce,
      firstVerdict?_ready_of_last podsTwice, labelsOnce, labelsTwice] at running ⊢
    generalize firstVerdict? _ = earlier at running ⊢
    cases earlier with
    | some verdict =>
      rw [Option.some_or] at running
      refine ⟨pod, ?_⟩
      rw [Option.some_or]
      exact running
    | none =>
      rw [Option.none_or] at running
      split at running
      · rename_i isMatch
        obtain rfl := verdict?_scheduledPod running
        refine ⟨ClusterObjects.scheduledPod second Pod.runningPhase (once.podCount + 1), ?_⟩
        rw [Option.none_or, if_pos isMatch]
        rfl
      · cases running

end MemoryCluster

/-! ### What a run leaves behind -/

/-- The component stands: it is stored as desired, and can be found. -/
structure Standing (desired : DesiredComponent) (objects : ClusterObjects) (held : Deployment) :
    Prop where
  isLive : desired.live? objects = some held
  isStored : objects.deployments.get? desired.name = some held
  labels : held.metadata.labels = some desired.labels
  spec : held.spec = desired.deployment.spec
  claims : objects.HasClaims desired.claims
  service : desired.ServiceInLine objects

variable {desired : DesiredComponent} {behaviour : ClusterBehaviour} {timeout : Duration}
  {before objects after : ClusterObjects} {outcome : ReconcileOutcome} {held : Deployment}

/-- After a successful run the component stands, unless a Service is left that is not
desired. -/
theorem Reconciled.exists_standing
    (reconciled : Reconciled behaviour timeout desired before outcome after)
    (rendered : desired.IsRendered) (plain : PlainName desired.name) (filed : before.Filed)
    (inLine : (after.services.get? desired.name).isSome = desired.service.isSome) :
    ∃ held, Standing desired after held := by
  obtain ⟨stored, isNamed, isLabelled, isSpecified, deployments⟩ := reconciled.deployed.deployments
  have isStored : after.deployments.get? desired.name = some stored := by
    rw [deployments, OrderedMap.get?_insert_self]
  have keyed : after.deployments.KeyedBy fun deployment => deployment.metadata.nameOrEmpty := by
    rw [deployments]
    refine filed.deployments.insert ?_
    rw [Kubernetes.Metadata.nameOrEmpty, isNamed, Option.getD_some]
  have isMatch : matchesSelector stored.metadata.labels desired.selector = true := by
    rw [isLabelled, DesiredComponent.selector, rendered.labels_eq]
    exact plain.matchesSelector
  refine ⟨stored, DesiredComponent.live?_eq_some keyed isStored isNamed isMatch, isStored,
    isLabelled, isSpecified, reconciled.deployed.hasClaims, ?_⟩
  cases isDesired : desired.service with
  | none =>
    rw [DesiredComponent.serviceInLine_iff_of_none isDesired]
    rw [isDesired] at inLine
    simpa using inLine
  | some service =>
    have settled := reconciled.settled
    rw [ServiceSettled, isDesired] at settled
    obtain ⟨live, services, agrees, -⟩ := settled
    refine DesiredComponent.serviceInLine_of_some isDesired ?_ agrees
    rw [services, OrderedMap.get?_insert_self]

/-- What replaces a Service that is in line has the specification of that, addresses and
all. -/
theorem DesiredComponent.IsRendered.replacing_spec (rendered : desired.IsRendered)
    {service live : Service} (isService : desired.service = some service)
    (agrees : live.AgreesWith service) : (service.replacing live).spec = live.spec := by
  obtain ⟨ports, rfl⟩ := rendered.service_eq isService
  have samePorts := agrees.ports
  have sameSelector := agrees.selector
  cases isSpec : live.spec with
  | none =>
    rw [isSpec] at samePorts
    cases samePorts
  | some spec =>
    rw [isSpec] at samePorts sameSelector
    obtain ⟨address, addresses, livePorts, liveSelector⟩ := spec
    cases samePorts
    cases sameSelector
    rw [Service.replacing, isSpec]

/-! ### The run that follows -/

/-- What a Deployment says besides its name and version. -/
def Kubernetes.Deployment.content (deployment : Deployment) :
    Option Labels × Option Kubernetes.DeploymentSpec :=
  (deployment.metadata.labels, deployment.spec)

/-- What a Service says besides its name and version. -/
def Kubernetes.Service.content (service : Service) :
    Option Labels × Option Kubernetes.ServiceSpec :=
  (service.metadata.labels, service.spec)

/-- The component has been written anew and says what it said before. -/
structure Renewed (desired : DesiredComponent) (before after : ClusterObjects) : Prop where
  deployment : (after.deployments.get? desired.name).map Deployment.content =
    (before.deployments.get? desired.name).map Deployment.content
  service : (after.services.get? desired.name).map Service.content =
    (before.services.get? desired.name).map Service.content
  claims : after.claims = before.claims

/-- How the Service is brought in line where it is already. -/
def DesiredComponent.serviceCalls (desired : DesiredComponent) : List Call :=
  ⟨.getService, desired.name, []⟩ ::
    desired.service.toList.map fun _ => ⟨.replaceService, desired.name, []⟩

/-- What is asked for and written where the component stands. -/
def DesiredComponent.renewalCalls (desired : DesiredComponent) : List Call :=
  ⟨.listDeployments, desired.selector, []⟩ ::
    (desired.claims.map fun claim => ⟨.getClaim, claim.metadata.nameOrEmpty, []⟩) ++
    ⟨.replaceDeployment, desired.name, []⟩ :: desired.serviceCalls ++
    [⟨.watchPods, desired.selector, []⟩]

/-- The operation makes or removes an object. -/
def Operation.IsCreationOrDeletion : Operation → Prop
  | createDeployment | createService | createClaim => True
  | deleteDeployment | deleteService | deletePod => True
  | _ => False

theorem DesiredComponent.not_isCreationOrDeletion {call : Call}
    (mem : call ∈ desired.renewalCalls) : ¬ call.operation.IsCreationOrDeletion := by
  simp only [renewalCalls, serviceCalls, List.mem_append, List.mem_map, List.mem_cons,
    List.not_mem_nil, or_false] at mem
  rcases mem with ((rfl | ⟨claim, -, rfl⟩) | rfl | rfl | ⟨service, -, rfl⟩) | rfl <;> exact id

/-- The desired Deployment as it replaces the one that is held. -/
def DesiredComponent.renewal (desired : DesiredComponent) (held : Deployment) : Deployment :=
  desired.deployment.withVersion held.metadata.resourceVersion

namespace MemoryCluster

section

variable (calm : behaviour.IsCalm)

include calm

/-- Claims that are there are only looked at. -/
theorem ensureClaims_performs_of_held {claims : List Claim} (held : objects.HasClaims claims) :
    Performs behaviour (ensureClaims client claims) objects
      (claims.map fun claim => ⟨.getClaim, claim.metadata.nameOrEmpty, []⟩) () objects := by
  induction claims with
  | nil => exact .pure ()
  | cons claim rest ih =>
    have isHeld := held claim List.mem_cons_self
    obtain ⟨live, isLive⟩ := Option.isSome_iff_exists.mp isHeld
    have others := ih fun other mem => held other (List.mem_cons_of_mem _ mem)
    refine (getClaim_performs calm objects claim.metadata.nameOrEmpty).bind ?_
    rw [isLive]
    exact others

variable (rendered : desired.IsRendered)

include rendered

/-- A Service that is in line is replaced by one that says the same. -/
theorem updateService_performs_of_inLine (inLine : desired.ServiceInLine objects) :
    ∃ after, Performs behaviour (updateService client desired) objects desired.serviceCalls ()
        after ∧
      after.deployments = objects.deployments ∧ after.claims = objects.claims ∧
      after.pods = objects.pods ∧
      (after.services.get? desired.name).map Service.content =
        (objects.services.get? desired.name).map Service.content := by
  have asks := getService_performs calm objects desired.name
  rw [updateService, DesiredComponent.serviceCalls]
  cases isDesired : desired.service with
  | none =>
    have absent := (DesiredComponent.serviceInLine_iff_of_none isDesired).mp inLine
    rw [absent] at asks
    exact ⟨objects, asks.bind (.pure ()), rfl, rfl, rfl, rfl⟩
  | some service =>
    cases isLive : objects.services.get? desired.name with
    | none =>
      rw [DesiredComponent.ServiceInLine, isDesired, isLive] at inLine
      exact inLine.elim
    | some live =>
      have agrees : live.AgreesWith service := by
        rwa [DesiredComponent.ServiceInLine, isDesired, isLive] at inLine
      have sameSpec := rendered.replacing_spec isDesired agrees
      have isNamed : (service.replacing live).metadata.nameOrEmpty = desired.name := by
        obtain ⟨ports, rfl⟩ := rendered.service_eq isDesired
        rfl
      have isThere : objects.services.get? (service.replacing live).metadata.nameOrEmpty =
          some live := by
        rw [isNamed, isLive]
      have sameAddress : live.clusterIP? = (service.replacing live).clusterIP? := by
        rw [Service.clusterIP?, Service.clusterIP?, sameSpec]
      have replaces := replaceService_performs calm isThere rfl sameAddress
      rw [isNamed] at replaces
      rw [isLive] at asks
      refine ⟨_, asks.bind (replaces.bind (.pure ())), rfl, rfl, rfl, ?_⟩
      rw [ClusterObjects.storeService_services, isNamed, OrderedMap.get?_insert_self,
        Option.map_some, Option.map_some, Service.content, Service.content, agrees.labels]
      exact congrArg some (Prod.ext rfl sameSpec)

/-- Where the component stands, its Deployment is replaced by one that says the same, and
its Service is seen to. -/
theorem applyComponent_performs_of_standing (standing : Standing desired objects held) :
    ∃ after, Performs behaviour (applyComponent client desired (desired.live? objects)) objects
        (⟨.replaceDeployment, desired.name, []⟩ :: desired.serviceCalls) .updated after ∧
      Renewed desired objects after ∧
      after.pods =
        (objects.schedulePod behaviour.scheduledPodPhase (desired.renewal held)).pods := by
  have isNamed : (desired.renewal held).metadata.nameOrEmpty = desired.name :=
    rendered.withVersion_nameOrEmpty _
  have isThere : objects.deployments.get? (desired.renewal held).metadata.nameOrEmpty =
      some held := by
    rw [isNamed, standing.isStored]
  have replaces := replaceDeployment_performs calm isThere rfl
  have inLine : desired.ServiceInLine
      (objects.storeDeployment behaviour.scheduledPodPhase (desired.renewal held)).2 := by
    rw [DesiredComponent.ServiceInLine, ClusterObjects.storeDeployment_services]
    exact standing.service
  obtain ⟨after, updates, deployments, claims, pods, sameService⟩ :=
    updateService_performs_of_inLine calm rendered inLine
  have applies : Performs behaviour (applyComponent client desired (some held)) objects
      (_ ++ desired.serviceCalls ++ []) .updated after :=
    (replaces.bind updates).bind (.pure ReconcileAction.updated)
  rw [isNamed, List.append_nil] at applies
  refine ⟨after, ?_, ⟨?_, ?_, ?_⟩, ?_⟩
  · rw [standing.isLive]
    exact applies
  · have sameLabels : desired.deployment.metadata.labels = some desired.labels := by
      rw [rendered.deployment_metadata, rendered.labels_eq]
      rfl
    rw [deployments, ClusterObjects.storeDeployment_deployments, isNamed,
      OrderedMap.get?_insert_self, standing.isStored, Option.map_some, Option.map_some,
      Deployment.content, Deployment.content, standing.labels, standing.spec]
    exact congrArg some (Prod.ext sameLabels rfl)
  · rw [sameService, ClusterObjects.storeDeployment_services]
  · rw [claims, ClusterObjects.storeDeployment_claims]
  · rw [pods, ClusterObjects.storeDeployment_pods]

/-- Where the component stands, reconciling replaces what is there by the same. -/
theorem reconcile_performs_of_standing (standing : Standing desired objects held)
    (running : ∀ twice : ClusterObjects, twice.pods =
      (objects.schedulePod behaviour.scheduledPodPhase (desired.renewal held)).pods →
      ∃ pod, ((watchOf twice desired.selector).outcome desired.selector timeout).2 = .ok pod) :
    ∃ pod after, Performs behaviour (reconcile client timeout desired) objects
        desired.renewalCalls ⟨.updated, pod⟩ after ∧ Renewed desired objects after := by
  have lists := listDeployments_performs calm objects desired.selector
  have ensures := ensureClaims_performs_of_held calm standing.claims
  obtain ⟨written, applies, renewed, pods⟩ :=
    applyComponent_performs_of_standing calm rendered standing
  obtain ⟨pod, isRunning⟩ := running written pods
  obtain ⟨watches, count, waits⟩ := waitForRunningPod_performs calm isRunning
  have inOrder : desired.renewalCalls = [⟨.listDeployments, desired.selector, []⟩] ++
      ((desired.claims.map fun claim => ⟨.getClaim, claim.metadata.nameOrEmpty, []⟩) ++
        (⟨.replaceDeployment, desired.name, []⟩ :: desired.serviceCalls ++
          ([⟨.watchPods, desired.selector, []⟩] ++ []))) := by
    simp [DesiredComponent.renewalCalls]
  refine ⟨pod.metadata.nameOrEmpty, { written with watches := watches, watchCount := count }, ?_,
    ⟨renewed.deployment, renewed.service, renewed.claims⟩⟩
  rw [inOrder]
  exact lists.bind (ensures.bind (applies.bind (waits.bind (.pure _))))

end

/-- Reconciling is idempotent. Where a run succeeds on a cluster where nothing is made to
fail, whatever else has happened there before, and leaves a Service exactly if one is
desired, another run succeeds as well. It updates, and creates and deletes nothing; the
Deployment and the Service say afterwards what they said before, addresses and all, and the
claims are the same. -/
theorem reconcile_idempotent {cluster once : MemoryCluster} (reached : cluster.Reachable)
    (rendered : desired.IsRendered) (plain : PlainName desired.name)
    (calm : cluster.behaviour.IsCalm)
    (first : reconcile client timeout desired cluster = (.ok outcome, once))
    (inLine : (once.objects.services.get? desired.name).isSome = desired.service.isSome) :
    ∃ again twice, reconcile client timeout desired once = (.ok again, twice) ∧
      again.action = .updated ∧
      twice.history = once.history ++ desired.renewalCalls ∧
      (∀ call ∈ desired.renewalCalls, ¬ call.operation.IsCreationOrDeletion) ∧
      (once.objects.deployments.get? desired.name).isSome = true ∧
      Renewed desired once.objects twice.objects := by
  have reconciled := reconciled_of_run rendered first
  have sameBehaviour := behaviour_of_run rendered first
  obtain ⟨held, standing⟩ := reconciled.exists_standing rendered plain reached.filed inLine
  obtain ⟨runningPod, -, waited⟩ := reconciled.running
  have running (twice : ClusterObjects) (again : twice.pods =
      (once.objects.schedulePod cluster.behaviour.scheduledPodPhase (desired.renewal held)).pods) :
      ∃ pod, ((watchOf twice desired.selector).outcome desired.selector timeout).2 = .ok pod :=
    exists_running_of_rescheduled rfl rfl reconciled.deployed.pods again waited
  obtain ⟨pod, after, performs, renewed⟩ :=
    reconcile_performs_of_standing calm rendered standing running
  have follows := performs once.history
  rw [← sameBehaviour] at follows
  refine ⟨_, _, follows, rfl, rfl, fun call => DesiredComponent.not_isCreationOrDeletion, ?_,
    renewed⟩
  rw [standing.isStored, Option.isSome_some]

/-- A component with a port, created on an empty cluster and reconciled again. -/
theorem reconcile_idempotent_sample :
    ∃ desired outcome once again twice, desired.IsRendered ∧
      reconcile client ⟨0⟩ desired (.empty (some Pod.runningPhase)) = (.ok outcome, once) ∧
      reconcile client ⟨0⟩ desired once = (.ok again, twice) ∧ again.action = .updated ∧
      Renewed desired once.objects twice.objects := by
  have succeeds : ∃ desired, render (.sample [8080]) {} = .ok desired ∧
      (decide (desired.name = "web") &&
        let run := reconcile client ⟨0⟩ desired (.empty (some Pod.runningPhase))
        run.1.toOption.isSome &&
          (run.2.objects.services.get? desired.name).isSome == desired.service.isSome) = true :=
    Checked.exists_of_any_toOption (by decide +kernel)
  obtain ⟨desired, isRendered, succeeds⟩ := succeeds
  simp only [Bool.and_eq_true, decide_eq_true_eq, beq_iff_eq] at succeeds
  obtain ⟨isNamed, succeeded, inLine⟩ := succeeds
  have rendered : desired.IsRendered := ⟨_, _, isRendered⟩
  have plain : PlainName desired.name := by
    rw [isNamed]
    exact ⟨by decide, by decide⟩
  have calm : (empty (some Pod.runningPhase)).behaviour.IsCalm := fun _ => rfl
  cases run : reconcile client ⟨0⟩ desired (.empty (some Pod.runningPhase)) with
  | mk result once =>
    rw [run] at succeeded inLine
    cases result with
    | error failure => cases succeeded
    | ok outcome =>
      obtain ⟨again, twice, runs, isUpdate, -, -, -, renewed⟩ :=
        reconcile_idempotent (.empty _) rendered plain calm run inLine
      exact ⟨desired, outcome, once, again, twice, rendered, run, runs, isUpdate, renewed⟩

end MemoryCluster

end DevfilePush
