import DevfilePush.Proofs.Collection.OrderedMap
import DevfilePush.Proofs.Push.Progress

/-!
What reconciling ensures on a cluster in memory.

`before` is what the objects were when it began; every assertion on the way compares
with it. One lemma follows each part of the work (`Advances`), and `reconcile_ensures`
puts them together: a run that succeeds leaves the cluster `Reconciled`, and one that
fails leaves it `Interrupted` at some stage.
-/

namespace DevfilePush.MemoryCluster

open Kubernetes (Claim Deployment Service)
open Session (Ensures)

variable {α : Type} {setting : Setting} {timeout : Duration} {desired : DesiredComponent}
  {before : ClusterObjects} {pre : ClusterObjects → Prop}

/-- A part of reconciling: it leads from objects with `pre` to objects with `post`, or is
interrupted. -/
abbrev Advances (setting : Setting) (timeout : Duration) (desired : DesiredComponent)
    (before : ClusterObjects) (pre : ClusterObjects → Prop) (work : Session MemoryCluster α)
    (post : α → ClusterObjects → Prop) : Prop :=
  Ensures (Under setting pre) work (fun value => Under setting (post value)) fun failure =>
    Under setting (Interrupted setting.behaviour timeout desired before failure)

/-- Where less is known, or more, the work advances all the same. -/
theorem Advances.beginning {work : Session MemoryCluster α} {post : α → ClusterObjects → Prop}
    (advances : Advances setting timeout desired before pre work post)
    {pre' : ClusterObjects → Prop} (weaker : ∀ objects, pre' objects → pre objects) :
    Advances setting timeout desired before pre' work post :=
  advances.weaken (fun _ holds => ⟨holds.1, weaker _ holds.2⟩) (fun _ _ done => done)
    fun _ _ stopped => stopped

/-- Wherever a stage has been reached, being made to fail is an interruption. -/
theorem interruptible_of_progress
    (reached : ∀ objects, pre objects →
      Progress setting.behaviour.scheduledPodPhase desired before objects) :
    Interruptible setting.behaviour pre (Interrupted setting.behaviour timeout desired before) := by
  intro operation message isInjected objects holds
  exact ⟨.injected isInjected, reached objects holds⟩

/-! ### Claims -/

/-- Claims have been created, those for `claims` among them. -/
def Claimed (before : ClusterObjects) (claims : List Claim) (after : ClusterObjects) : Prop :=
  ClaimsAdded before after ∧ after.HasClaims claims

/-- A claim that is created joins those that are there. -/
theorem Claimed.withClaim {objects : ClusterObjects} {claims : List Claim} {claim : Claim}
    (claimed : Claimed before claims objects)
    (free : objects.claims.get? claim.metadata.nameOrEmpty = none) :
    Claimed before (claims ++ [claim]) (objects.withClaim claim).2 := by
  refine ⟨claimed.1.withClaim free, ?_⟩
  intro other mem
  rw [ClusterObjects.withClaim_claims, OrderedMap.contains, OrderedMap.get?_insert]
  split
  · rfl
  · rename_i ne
    rcases List.mem_append.mp mem with mem | mem
    · exact claimed.2 other mem
    · rw [List.mem_singleton.mp mem] at ne
      exact absurd rfl ne

/-- A claim that is there already is held as well. -/
theorem Claimed.snoc {objects : ClusterObjects} {claims : List Claim} {claim live : Claim}
    (claimed : Claimed before claims objects)
    (isLive : objects.claims.get? claim.metadata.nameOrEmpty = some live) :
    Claimed before (claims ++ [claim]) objects := by
  refine ⟨claimed.1, ?_⟩
  intro other mem
  rcases List.mem_append.mp mem with mem | mem
  · exact claimed.2 other mem
  · rw [List.mem_singleton.mp mem, OrderedMap.contains, isLive]
    rfl

theorem getClaim_advances (claims : List Claim) (name : String) :
    Advances setting timeout desired before (Claimed before claims) (client.getClaim name)
      fun found after => Claimed before claims after ∧ after.claims.get? name = found :=
  getClaim_ensures (interruptible_of_progress fun _ claimed => .claims claimed.1)
    fun _ claimed => ⟨claimed, rfl⟩

/-- A claim that has not been found is created beside those that are held. -/
theorem createClaim_advances (claims : List Claim) (claim : Claim) :
    Advances setting timeout desired before
      (fun after => Claimed before claims after ∧
        after.claims.get? claim.metadata.nameOrEmpty = none)
      (client.createClaim claim) fun _ => Claimed before (claims ++ [claim]) := by
  refine createClaim_ensures (interruptible_of_progress fun _ holds => .claims holds.1.1) ?_ ?_
  · rintro objects failure ⟨-, isFree⟩ ⟨live, isLive⟩
    cases isFree.symm.trans isLive
  · rintro objects ⟨claimed, -⟩ isFree
    exact claimed.withClaim isFree

/-- The induction is on the claims to come; `held` are those that have been seen to. -/
theorem ensureClaims_advances (held claims : List Claim) :
    Advances setting timeout desired before (Claimed before held) (ensureClaims client claims)
      fun _ => Claimed before (held ++ claims) := by
  induction claims generalizing held with
  | nil =>
    rw [List.append_nil]
    exact .pure fun _ claimed => claimed
  | cons claim rest ih =>
    have others := ih (held ++ [claim])
    rw [List.append_assoc] at others
    refine (getClaim_advances held claim.metadata.nameOrEmpty).bind fun found => ?_
    cases found with
    | some live =>
      refine Advances.beginning others ?_
      rintro objects ⟨claimed, isLive⟩
      exact claimed.snoc isLive
    | none => exact (createClaim_advances held claim).bind fun _ => others

/-! ### Deployment -/

/-- The Deployment has been written, the Service not yet. -/
def AwaitsService (phase : Option String) (desired : DesiredComponent)
    (before after : ClusterObjects) : Prop :=
  Deployed phase desired before after ∧ after.services = before.services

/-- All has been written. -/
def Written (phase : Option String) (desired : DesiredComponent)
    (before after : ClusterObjects) : Prop :=
  Deployed phase desired before after ∧ ServiceSettled desired before after

variable (rendered : desired.IsRendered)

include rendered

/-- Without a live Deployment one is created, and the Service comes next. -/
theorem createDeployment_advances (absent : desired.live? before = none) :
    Advances setting timeout desired before (Claimed before desired.claims)
      (client.createDeployment desired.deployment)
      fun _ => AwaitsService setting.behaviour.scheduledPodPhase desired before := by
  have isNamed := rendered.deployment_nameOrEmpty
  refine createDeployment_ensures (interruptible_of_progress fun _ holds => .claims holds.1) ?_ ?_
  · rintro objects failure ⟨added, -⟩ ⟨live, isLive⟩
    refine ⟨.misjudged ?_, .claims added⟩
    rw [absent, ← added.deployments, ← isNamed, isLive]
    nofun
  · rintro objects ⟨added, hasClaims⟩ isFree
    rw [isNamed, added.deployments] at isFree
    -- A rendered Deployment is the one that is based on its own version.
    have deployed : Deployed setting.behaviour.scheduledPodPhase desired before
        (objects.storeDeployment setting.behaviour.scheduledPodPhase desired.deployment).2 :=
      added.storeDeployment rendered hasClaims (by simp [absent, isFree])
        desired.deployment.metadata.resourceVersion
    exact ⟨deployed, ClusterObjects.storeDeployment_services.trans added.services⟩

/-- A live Deployment is replaced over its own version, and the Service comes next. -/
theorem replaceDeployment_advances {live : Deployment}
    (isLive : desired.live? before = some live) :
    Advances setting timeout desired before (Claimed before desired.claims)
      (client.replaceDeployment (desired.deployment.withVersion live.metadata.resourceVersion))
      fun _ => AwaitsService setting.behaviour.scheduledPodPhase desired before := by
  have isNamed := rendered.withVersion_nameOrEmpty live.metadata.resourceVersion
  refine replaceDeployment_ensures (interruptible_of_progress fun _ holds => .claims holds.1) ?_ ?_
  · rintro objects failure ⟨added, -⟩ stale
    refine ⟨.misjudged ?_, .claims added⟩
    intro same
    rw [isLive, ← added.deployments, ← isNamed] at same
    exact stale live same.symm rfl
  · rintro objects _ ⟨added, hasClaims⟩ isStored
    rw [isNamed, added.deployments] at isStored
    exact ⟨added.storeDeployment rendered hasClaims (by simp [isLive, isStored]) _,
      ClusterObjects.storeDeployment_services.trans added.services⟩

/-! ### Service -/

omit rendered in
/-- While the Service is being seen to, an interruption leaves the Deployment written. -/
theorem interruptible_of_awaitsService
    (reached : ∀ objects, pre objects →
      AwaitsService setting.behaviour.scheduledPodPhase desired before objects) :
    Interruptible setting.behaviour pre (Interrupted setting.behaviour timeout desired before) := by
  refine interruptible_of_progress fun objects holds => ?_
  obtain ⟨deployed, services⟩ := reached objects holds
  exact .deployment deployed services

omit rendered in
theorem getService_advances :
    Advances setting timeout desired before
      (AwaitsService setting.behaviour.scheduledPodPhase desired before)
      (client.getService desired.name) fun found after =>
        AwaitsService setting.behaviour.scheduledPodPhase desired before after ∧
          before.services.get? desired.name = found := by
  refine getService_ensures (interruptible_of_awaitsService fun _ holds => holds) ?_
  intro objects holds
  exact ⟨holds, by rw [holds.2]⟩

/-- A Service is created where none is; with the Deployment, one may be in the way. -/
theorem createService_advances {service : Service} (isService : desired.service = some service)
    (free : desired.live? before = none ∨ before.services.get? desired.name = none) :
    Advances setting timeout desired before
      (AwaitsService setting.behaviour.scheduledPodPhase desired before)
      (client.createService service)
      fun _ => Written setting.behaviour.scheduledPodPhase desired before := by
  obtain ⟨ports, isRendered⟩ := rendered.service_eq isService
  have isNamed : service.metadata.nameOrEmpty = desired.name := by
    rw [isRendered]
    rfl
  refine createService_ensures (interruptible_of_awaitsService fun _ holds => holds) ?_ ?_
  · rintro objects failure ⟨deployed, services⟩ ⟨live, isLive⟩
    rw [services, isNamed] at isLive
    rcases free with absent | isFree
    · exact ⟨.leftover absent (by rw [isLive]; nofun), .deployment deployed services⟩
    · cases isFree.symm.trans isLive
  · rintro objects ⟨deployed, services⟩ isFree
    rw [services, isNamed] at isFree
    refine ⟨deployed.of_eq ClusterObjects.withService_deployments
      ClusterObjects.withService_pods ClusterObjects.withService_claims, ?_⟩
    have stored : ServiceStored desired service before (objects.withService service).2 := by
      refine ⟨(objects.withService service).1, ?_, ?_, ?_⟩
      · rw [ClusterObjects.withService_services, services, isNamed]
      · rw [isRendered]
        exact ⟨rfl, rfl, rfl⟩
      · rw [isFree]
        rfl
    rw [ServiceSettled, isService]
    exact stored

/-- The live Service is replaced at its own address. -/
theorem replaceService_advances {service live : Service}
    (isService : desired.service = some service)
    (isLive : before.services.get? desired.name = some live) :
    Advances setting timeout desired before
      (AwaitsService setting.behaviour.scheduledPodPhase desired before)
      (client.replaceService (service.replacing live))
      fun _ => Written setting.behaviour.scheduledPodPhase desired before := by
  obtain ⟨ports, isRendered⟩ := rendered.service_eq isService
  have isNamed : (service.replacing live).metadata.nameOrEmpty = desired.name := by
    rw [isRendered]
    rfl
  have sameAddress : live.clusterIP? = (service.replacing live).clusterIP? := by
    rw [isRendered]
    unfold Service.replacing Service.clusterIP?
    cases live.spec <;> rfl
  refine replaceService_ensures (interruptible_of_awaitsService fun _ holds => holds) ?_ ?_
  · rintro objects failure ⟨-, services⟩ refused
    rw [services, isNamed] at refused
    exact absurd sameAddress (refused live isLive rfl)
  · rintro objects _ ⟨deployed, services⟩ - -
    refine ⟨deployed.of_eq ClusterObjects.storeService_deployments
      ClusterObjects.storeService_pods ClusterObjects.storeService_claims, ?_⟩
    have stored : ServiceStored desired service before
        (objects.storeService (service.replacing live)).2 := by
      refine ⟨(objects.storeService (service.replacing live)).1, ?_, ?_, ?_⟩
      · rw [ClusterObjects.storeService_services, services, isNamed]
      · rw [isRendered]
        unfold Service.replacing
        cases live.spec <;> exact ⟨rfl, rfl, rfl⟩
      · rw [isLive]
        exact sameAddress.symm
    rw [ServiceSettled, isService]
    exact stored

/-- Whether the Service is to be created, replaced, deleted or left out, all has been written once
it has been seen to. -/
theorem updateService_advances {live : Deployment} (isLive : desired.live? before = some live) :
    Advances setting timeout desired before
      (AwaitsService setting.behaviour.scheduledPodPhase desired before)
      (updateService client desired)
      fun _ => Written setting.behaviour.scheduledPodPhase desired before := by
  refine getService_advances.bind fun found => ?_
  refine .ofFact (fun cluster holds => holds.2.2) fun isFound => ?_
  refine Advances.beginning ?_ fun objects holds => holds.1
  cases isService : desired.service with
  | some service =>
    cases found with
    | some other =>
      refine (replaceService_advances rendered isService isFound).bind fun _ => ?_
      exact .pure fun _ done => done
    | none =>
      refine (createService_advances rendered isService (.inr isFound)).bind fun _ => ?_
      exact .pure fun _ done => done
  | none =>
    have settled : ∀ objects : ClusterObjects,
        objects.services = before.services.erase desired.name →
        ServiceSettled desired before objects := by
      intro objects erased
      rw [ServiceSettled, isService, isLive]
      exact erased
    cases found with
    | some other =>
      refine deleteService_ensures (interruptible_of_awaitsService fun _ holds => holds) ?_ ?_
      · rintro objects failure ⟨-, services⟩ isFree
        rw [services, isFound] at isFree
        cases isFree
      · rintro objects ⟨deployed, services⟩ -
        exact ⟨deployed.of_eq rfl rfl rfl, settled _ (by rw [services])⟩
    | none =>
      refine .pure ?_
      rintro cluster ⟨same, deployed, services⟩
      refine ⟨same, deployed, settled _ ?_⟩
      rw [services, OrderedMap.erase_of_get?_eq_none isFound]

/-! ### The whole -/

theorem createComponent_advances (absent : desired.live? before = none) :
    Advances setting timeout desired before (Claimed before desired.claims)
      (createComponent client desired)
      fun _ => Written setting.behaviour.scheduledPodPhase desired before := by
  refine (createDeployment_advances rendered absent).bind fun _ => ?_
  cases isService : desired.service with
  | some service =>
    refine (createService_advances rendered isService (.inl absent)).bind fun _ => ?_
    exact .pure fun _ done => done
  | none =>
    refine .pure ?_
    rintro cluster ⟨same, deployed, services⟩
    refine ⟨same, deployed, ?_⟩
    rw [ServiceSettled, isService, absent]
    exact services

theorem updateComponent_advances {live : Deployment} (isLive : desired.live? before = some live) :
    Advances setting timeout desired before (Claimed before desired.claims)
      (updateComponent client desired live)
      fun _ => Written setting.behaviour.scheduledPodPhase desired before := by
  refine (replaceDeployment_advances rendered isLive).bind fun _ => ?_
  exact updateService_advances rendered isLive

/-- Either way everything is written, and the action says whether there was a live Deployment. -/
theorem applyComponent_advances :
    Advances setting timeout desired before (Claimed before desired.claims)
      (applyComponent client desired (desired.live? before)) fun action after =>
        Written setting.behaviour.scheduledPodPhase desired before after ∧
          action = .ofLive (desired.live? before) := by
  cases isLive : desired.live? before with
  | none =>
    refine (createComponent_advances rendered isLive).bind fun _ => ?_
    exact .pure fun _ holds => ⟨holds.1, holds.2, rfl⟩
  | some live =>
    refine (updateComponent_advances rendered isLive).bind fun _ => ?_
    exact .pure fun _ holds => ⟨holds.1, holds.2, rfl⟩

omit rendered in
/-- A wait that succeeds ends with a pod of the component, and one that fails leaves all written. -/
theorem waitForRunningPod_advances (action : ReconcileAction) :
    Advances setting timeout desired before
      (fun after => Written setting.behaviour.scheduledPodPhase desired before after ∧
        action = .ofLive (desired.live? before))
      (waitForRunningPod client timeout desired.selector) fun pod =>
        Reconciled setting.behaviour timeout desired before ⟨action, pod.metadata.nameOrEmpty⟩ := by
  refine waitForRunningPod_ensures (interruptible_of_progress ?_) ?_
  · rintro objects ⟨⟨deployed, settled⟩, -⟩
    exact .service deployed settled
  · rintro objects watches count ⟨⟨deployed, settled⟩, isAction⟩
    have deployed' : Deployed setting.behaviour.scheduledPodPhase desired before
        { objects with watches := watches, watchCount := count } := deployed.of_eq rfl rfl rfl
    cases waited : ((watchOf objects desired.selector).outcome desired.selector timeout).2 with
    | ok pod => exact ⟨isAction, deployed', settled, pod, rfl, waited⟩
    | error failure => exact ⟨.notRunning deployed' waited, .service deployed' settled⟩

omit rendered in
/-- The listing finds the live Deployment if there is one, and nothing has changed by then. -/
theorem listDeployments_advances :
    Advances setting timeout desired before (· = before) (client.listDeployments desired.selector)
      fun found after => Claimed before [] after ∧
        (found.find? fun deployment => deployment.metadata.name = some desired.name) =
          desired.live? before := by
  refine listDeployments_ensures (interruptible_of_progress ?_) ?_
  · rintro objects rfl
    exact .claims (.refl objects)
  · rintro objects rfl
    exact ⟨⟨.refl objects, by simp [ClusterObjects.HasClaims]⟩, rfl⟩

/-- Reconciling, from any objects: it succeeds and everything is in its place, or it
fails, for one of a few reasons and at one of a few stages. -/
theorem reconcile_advances :
    Advances setting timeout desired before (· = before) (reconcile client timeout desired)
      (Reconciled setting.behaviour timeout desired before) := by
  refine listDeployments_advances.bind fun found => ?_
  refine .ofFact (fun cluster holds => holds.2.2) fun isLive => ?_
  rw [isLive]
  refine Advances.beginning ?_ fun objects holds => holds.1
  refine (ensureClaims_advances [] desired.claims).bind fun _ => ?_
  refine (applyComponent_advances rendered).bind fun action => ?_
  refine (waitForRunningPod_advances action).bind fun pod => ?_
  exact .pure fun _ done => done

/-! ### Reading a run -/

variable {cluster after : MemoryCluster}

/-- A run that succeeds has put everything in its place. -/
theorem reconciled_of_run {outcome : ReconcileOutcome}
    (run : reconcile client timeout desired cluster = (.ok outcome, after)) :
    Reconciled cluster.behaviour timeout desired cluster.objects outcome after.objects := by
  have advances : Advances cluster.setting timeout desired cluster.objects (· = cluster.objects)
      (reconcile client timeout desired) _ := reconcile_advances rendered
  exact (advances.ok ⟨rfl, rfl⟩ run).2

/-- Reconciling does not change how the cluster behaves. -/
theorem behaviour_of_run {result : Except Failure ReconcileOutcome}
    (run : reconcile client timeout desired cluster = (result, after)) :
    after.behaviour = cluster.behaviour := by
  have advances : Advances cluster.setting timeout desired cluster.objects (· = cluster.objects)
      (reconcile client timeout desired) _ := reconcile_advances rendered
  cases result with
  | ok outcome => exact congrArg Setting.behaviour (advances.ok ⟨rfl, rfl⟩ run).1
  | error failure => exact congrArg Setting.behaviour (advances.error ⟨rfl, rfl⟩ run).1

/-- A run that fails has been interrupted at one of the stages. -/
theorem interrupted_of_run {failure : Failure}
    (run : reconcile client timeout desired cluster = (.error failure, after)) :
    Interrupted cluster.behaviour timeout desired cluster.objects failure after.objects := by
  have advances : Advances cluster.setting timeout desired cluster.objects (· = cluster.objects)
      (reconcile client timeout desired) _ := reconcile_advances rendered
  exact (advances.error ⟨rfl, rfl⟩ run).2

end DevfilePush.MemoryCluster
