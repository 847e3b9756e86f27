import DevfilePush.Proofs.Push.Execution
import DevfilePush.Proofs.Push.Reconcile

/-!
Which failures can occur when.

All that can be wrong with a devfile or with the parameters shows while the plan is
made, and until then the cluster is not asked anything. Once it is, only the cluster
fails: reconciling because of an operation or a pod, and a command because of a program,
since the commands of a plan can all be expanded.
-/

namespace DevfilePush.MemoryCluster

open Session (Ensures Keeps)

/-- The cluster is what fails. -/
def ClusterFails (failure : Failure) (_ : MemoryCluster) : Prop :=
  ∃ cause, failure = .cluster cause

/-- Work that may leave the cluster in any state, but fails as the cluster does. -/
abbrev FailsAsCluster {α : Type} (work : Session MemoryCluster α) : Prop :=
  Keeps (fun _ => True) work ClusterFails

variable {timeout : Duration} {devfile : Devfile} {params : PushParameters}

theorem execOrFail_failsAsCluster (pod container : String) (program : List String) :
    FailsAsCluster (client.execOrFail pod container program) :=
  execOrFail_ensures (fun _ _ _ failed => exists_cluster_of_programResult failed)
    fun _ _ _ _ => trivial

theorem reconcile_failsAsCluster {desired : DesiredComponent} (rendered : desired.IsRendered) :
    FailsAsCluster (reconcile client timeout desired) := by
  intro cluster _
  cases run : reconcile client timeout desired cluster with
  | mk result after =>
    cases result with
    | ok outcome => trivial
    | error failure => exact (interrupted_of_run rendered run).exists_cluster

/-- Carrying out a plan, nothing but the cluster fails. -/
theorem run_failsAsCluster {plan : PushPlan} (planned : devfile.pushPlan params = .ok plan)
    (shell : String) : FailsAsCluster (plan.run client timeout devfile shell) := by
  have plans := plans_of_pushPlan planned
  refine Ensures.bind (reconcile_failsAsCluster plans.isRendered) fun outcome => ?_
  refine Ensures.bind (executeAll_keeps execOrFail_failsAsCluster
    fun command mem => plans.expandable_before mem) fun before => ?_
  refine Ensures.bind (startProgram_keeps execOrFail_failsAsCluster _ _) fun started => ?_
  refine Ensures.bind (executeAll_keeps execOrFail_failsAsCluster
    fun command mem => plans.expandable_after mem) fun after => ?_
  exact .pure fun _ holds => holds

/-- A push that fails for any other reason than the cluster has not touched the cluster,
and no command that a push runs after that fails to expand. -/
theorem push_faults_precede_cluster (devfile : Devfile) (params : PushParameters) :
    (∀ timeout cluster failure after,
      push client timeout devfile params cluster = (.error failure, after) →
      failure.cluster? = none → after = cluster) ∧
    ∀ plan, devfile.pushPlan params = .ok plan →
      ∀ action, ∀ command ∈ plan.before action ++ plan.after action,
        ∃ leaves, devfile.flatten command = .ok leaves := by
  constructor
  · intro timeout cluster failure after run notCluster
    unfold push at run
    cases planned : devfile.pushPlan params with
    | error fault =>
      rw [planned] at run
      cases run
      rfl
    | ok plan =>
      rw [planned] at run
      obtain ⟨cause, rfl⟩ := (run_failsAsCluster planned _).error trivial run
      cases notCluster
  · intro plan planned action command mem
    have plans := plans_of_pushPlan planned
    rcases List.mem_append.mp mem with mem | mem
    · exact plans.expandable_before mem
    · exact plans.expandable_after mem

/-- The empty devfile has no run command, so pushing it asks nothing of the cluster; the
commands of the sample can be expanded. -/
theorem push_faults_precede_cluster_sample :
    (push client ⟨0⟩ {} {} (.empty none)).2 = .empty none ∧
      ∃ leaves, (Devfile.sample []).flatten .samplePreparation = .ok leaves := by
  constructor
  · have faulty : (match (push client ⟨0⟩ {} {} (.empty none)).1 with
        | .ok _ => false
        | .error failure => failure.cluster?.isNone) = true := by decide +kernel
    cases run : push client ⟨0⟩ {} {} (.empty none) with
    | mk result after =>
      rw [run] at faulty
      cases result with
      | ok outcome => cases faulty
      | error failure =>
        exact (push_faults_precede_cluster {} {}).1 _ _ _ _ run
          (Option.isNone_iff_eq_none.mp faulty)
  · have isPlanned : ((Devfile.sample []).pushPlan {}).toOption.map (·.before .created) =
        some [.samplePreparation] := by decide +kernel
    cases planned : (Devfile.sample []).pushPlan {} with
    | error failure =>
      rw [planned] at isPlanned
      cases isPlanned
    | ok plan =>
      rw [planned] at isPlanned
      have before : plan.before .created = [.samplePreparation] := Option.some.inj isPlanned
      refine (push_faults_precede_cluster _ {}).2 plan planned .created .samplePreparation ?_
      rw [before]
      exact List.mem_append_left _ (List.mem_singleton_self _)

end DevfilePush.MemoryCluster
