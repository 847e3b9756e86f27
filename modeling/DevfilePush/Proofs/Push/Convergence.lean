import DevfilePush.Proofs.Push.ServiceAgreement
import DevfilePush.Proofs.Push.SoleComponent

/-!
Reconciling converges.

Whatever earlier attempts have done to a component, one that is not disturbed brings the
cluster into the desired state. Each setback is ruled out by a part of the invariant
(`not_interrupted`): the probe finds what is stored, no Service stands alone, and the pod
that is scheduled is the only one there is.
-/

namespace DevfilePush

open Kubernetes (Deployment Pod Service)

/-- The cluster is in the desired state, and a Service that was there has kept its
address. -/
structure Converged (desired : DesiredComponent) (before after : ClusterObjects) : Prop where
  deployment : ∃ stored, after.deployments.get? desired.name = some stored ∧
    stored.metadata.labels = desired.deployment.metadata.labels ∧
    stored.spec = desired.deployment.spec
  service : desired.ServiceInLine after
  address : ∀ live, after.services.get? desired.name = some live →
    live.clusterIP?.isSome = true ∧
      ∀ previous, before.services.get? desired.name = some previous →
        live.clusterIP? = previous.clusterIP?
  claims : after.HasClaims desired.claims
  pod : ∃ pod, after.pods.values = [pod]

namespace SoleComponent

variable {behaviour : ClusterBehaviour} {timeout : Duration} {desired : DesiredComponent}
  {before after : ClusterObjects} (sole : SoleComponent desired.name before)
  (rendered : desired.IsRendered)

include sole rendered

/-- The pod that is scheduled takes the place of all that there were. -/
theorem values_pods_of_deployed {phase : String}
    (deployed : Deployed (some phase) desired before after) :
    after.pods.values =
      [ClusterObjects.scheduledPod desired.deployment phase (before.podCount + 1)] := by
  rw [deployed.pods, ClusterObjects.schedulePod_pods]
  refine OrderedMap.values_insert_filterKeys ?_
  intro key mem
  rw [rendered.deployment_nameOrEmpty, sole.pod key mem]
  rfl

/-- A pod that is scheduled as running is the one that is waited for. -/
theorem outcome_of_deployed (plain : PlainName desired.name)
    (deployed : Deployed (some Pod.runningPhase) desired before after) :
    ((MemoryCluster.watchOf after desired.selector).outcome desired.selector timeout).2 =
      .ok (ClusterObjects.scheduledPod desired.deployment Pod.runningPhase
        (before.podCount + 1)) :=
  MemoryCluster.outcome_of_only_pod rendered plain (sole.values_pods_of_deployed rendered deployed)

/-- Where nothing is made to fail and pods run, nothing stops reconciling. -/
theorem not_interrupted (plain : PlainName desired.name) (calm : behaviour.IsCalm)
    (running : behaviour.scheduledPodPhase = some Pod.runningPhase) {failure : Failure} :
    ¬ Interrupted behaviour timeout desired before failure after := by
  intro interrupted
  have probed := sole.live?_eq rendered plain
  cases interrupted.setback with
  | injected isInjected => cases (calm _).symm.trans isInjected
  | misjudged wrong => exact wrong probed
  | leftover absent occupied =>
    have stored := sole.service occupied
    rw [← probed] at stored
    exact stored absent
  | notRunning deployed waited =>
    rw [running] at deployed
    cases waited.symm.trans (sole.outcome_of_deployed rendered plain deployed)

theorem converged_of_reconciled {outcome : ReconcileOutcome}
    (running : behaviour.scheduledPodPhase = some Pod.runningPhase)
    (reconciled : Reconciled behaviour timeout desired before outcome after) :
    Converged desired before after := by
  have deployed := reconciled.deployed
  have settled := reconciled.settled
  obtain ⟨stored, -, isLabelled, isSpecified, deployments⟩ := deployed.deployments
  constructor
  case deployment =>
    refine ⟨stored, ?_, ?_, isSpecified⟩
    · rw [deployments, OrderedMap.get?_insert_self]
    · rw [isLabelled, rendered.deployment_metadata, rendered.labels_eq]
      rfl
  case service =>
    refine (MemoryCluster.serviceInLine_of_reconciled reconciled).mpr ?_
    rintro ⟨absent, -, occupied⟩
    exact sole.service occupied absent
  case address =>
    intro live isLive
    refine ⟨sole.address_of_settled settled live isLive, ?_⟩
    intro previous isPrevious
    unfold ServiceSettled at settled
    split at settled
    · obtain ⟨service, services, -, address⟩ := settled
      rw [isPrevious] at address
      rw [services, OrderedMap.get?_insert_self] at isLive
      cases isLive
      exact address
    · split at settled
      · rw [settled, OrderedMap.get?_erase, if_pos rfl] at isLive
        cases isLive
      · rw [settled, isPrevious] at isLive
        cases isLive
        rfl
  case claims => exact deployed.hasClaims
  case pod =>
    rw [running] at deployed
    exact ⟨_, sole.values_pods_of_deployed rendered deployed⟩

end SoleComponent

namespace MemoryCluster

/-- An attempt to reconcile, with what it goes by. -/
def reconcileTrial (timeout : Duration) (attempt : ClusterBehaviour × DesiredComponent) :
    Trial ReconcileOutcome :=
  ⟨attempt.1, reconcile client timeout attempt.2⟩

/-- Attempts to reconcile states of one component leave it alone on the cluster. -/
theorem sole_afterAll {name : String} (timeout : Duration) (phase : Option String)
    {attempts : List (ClusterBehaviour × DesiredComponent)}
    (ofName : ∀ attempt ∈ attempts, attempt.2.IsRendered ∧ attempt.2.name = name) :
    SoleComponent name
      ((empty phase).afterAll (attempts.map (reconcileTrial timeout))).objects := by
  refine holds_afterAll ?_ (SoleComponent.empty name)
  intro trial mem cluster sole
  obtain ⟨attempt, attemptMem, rfl⟩ := List.mem_map.mp mem
  obtain ⟨rendered, rfl⟩ := ofName attempt attemptMem
  exact sole_reconcile rendered timeout sole

/-- After any attempts at a component, each with its own desired state, failures and pod
phase, an attempt that is not disturbed succeeds and brings the cluster into its desired
state. -/
theorem reconcile_converges {name : String} (plain : PlainName name) (timeout : Duration)
    (phase : Option String) {attempts : List (ClusterBehaviour × DesiredComponent)}
    (ofName : ∀ attempt ∈ attempts, attempt.2.IsRendered ∧ attempt.2.name = name)
    {desired : DesiredComponent} (rendered : desired.IsRendered) (isNamed : desired.name = name)
    {behaviour : ClusterBehaviour} (calm : behaviour.IsCalm)
    (running : behaviour.scheduledPodPhase = some Pod.runningPhase) :
    let cluster := (empty phase).afterAll (attempts.map (reconcileTrial timeout))
    ∃ outcome after,
      reconcile client timeout desired (cluster.behaving behaviour) = (.ok outcome, after) ∧
        Converged desired cluster.objects after.objects := by
  intro cluster
  subst isNamed
  have sole : SoleComponent desired.name cluster.objects := sole_afterAll timeout phase ofName
  cases run : reconcile client timeout desired (cluster.behaving behaviour) with
  | mk result after =>
    cases result with
    | ok outcome =>
      have reconciled := reconciled_of_run rendered run
      exact ⟨outcome, after, rfl, sole.converged_of_reconciled rendered running reconciled⟩
    | error failure =>
      have interrupted := interrupted_of_run rendered run
      exact absurd interrupted (sole.not_interrupted rendered plain calm running)

/-- A component with a port, half created and then half updated, converges to one without
ports. -/
theorem reconcile_converges_sample :
    ∃ served unserved, served.IsRendered ∧ unserved.IsRendered ∧
      let attempts :=
        [(.running (some .createService), served), (.running (some .getService), served)]
      let cluster := (empty none).afterAll (attempts.map (reconcileTrial ⟨0⟩))
      ∃ outcome after,
        reconcile client ⟨0⟩ unserved (cluster.behaving (.running none)) = (.ok outcome, after) ∧
          Converged unserved cluster.objects after.objects := by
  have isServed : ∃ served, render (.sample [8080]) {} = .ok served ∧
      decide (served.name = "web") = true :=
    Checked.exists_of_any_toOption (by decide +kernel)
  have isUnserved : ∃ unserved, render (.sample []) {} = .ok unserved ∧
      decide (unserved.name = "web") = true :=
    Checked.exists_of_any_toOption (by decide +kernel)
  obtain ⟨served, servedRendered, servedNamed⟩ := isServed
  obtain ⟨unserved, unservedRendered, unservedNamed⟩ := isUnserved
  have plain : PlainName "web" := ⟨by decide, by decide⟩
  refine ⟨served, unserved, ⟨_, _, servedRendered⟩, ⟨_, _, unservedRendered⟩, ?_⟩
  refine reconcile_converges plain ⟨0⟩ none ?_ ⟨_, _, unservedRendered⟩
    (of_decide_eq_true unservedNamed) ClusterBehaviour.isCalm_running rfl
  intro attempt mem
  rcases List.mem_cons.mp mem with rfl | mem
  · exact ⟨⟨_, _, servedRendered⟩, of_decide_eq_true servedNamed⟩
  · rw [List.mem_singleton.mp mem]
    exact ⟨⟨_, _, servedRendered⟩, of_decide_eq_true servedNamed⟩

end MemoryCluster

end DevfilePush
