import DevfilePush.Proofs.Push.Faults

/-!
Faults of a devfile that rendering does not find.

Rendering expands the event before the start, since its commands become containers, but never
the event after the start. So a devfile can render and still not have a plan: a push then fails
before it asks the cluster for anything, because of an id of the postStart event. This is the
only fault of a devfile that is left (`push_faulty_iff`).
-/

namespace DevfilePush

open Checked (Yields)

variable {devfile : Devfile} {params : PushParameters} {desired : DesiredComponent}

/-- The ids of the event name commands, and composite commands among them have exec commands as
their parts. -/
def Devfile.InOrder (devfile : Devfile) (event : LifecycleEvent) : Prop :=
  ∀ id ∈ devfile.eventIds event, devfile.NamesCommand id ∧ devfile.HasExecParts id

/-- The failure tells of an id of the event that has a fault. -/
def Devfile.TellsOf (devfile : Devfile) (event : LifecycleEvent) (failure : Failure) : Prop :=
  ∃ id ∈ devfile.eventIds event, ∃ fault, devfile.EventFault id fault ∧ failure = .synthesis fault

theorem Devfile.TellsOf.not_inOrder {event : LifecycleEvent} {failure : Failure}
    (tells : devfile.TellsOf event failure) : ¬ devfile.InOrder event := by
  intro inOrder
  obtain ⟨id, mem, fault, isFault, -⟩ := tells
  exact isFault.unfit (inOrder id mem)

theorem Devfile.TellsOf.cluster?_eq_none {event : LifecycleEvent} {failure : Failure}
    (tells : devfile.TellsOf event failure) : failure.cluster? = none := by
  obtain ⟨id, mem, fault, -, rfl⟩ := tells
  rfl

/-- An event expands if it is in order, and otherwise the failure tells of it. -/
theorem expandEvent_yields_failure (devfile : Devfile) (event : LifecycleEvent) :
    Yields ((devfile.expandEvent event).mapError Failure.synthesis)
      (fun _ => devfile.InOrder event) (devfile.TellsOf event) := by
  refine Yields.mapError ?_
  refine (Devfile.expandEvent_yields.imp_post fun _ done => done.1).imp_fail ?_
  rintro fault ⟨id, mem, isFault⟩
  exact ⟨id, mem, fault, isFault, rfl⟩

/-- The debug command of a rendered devfile has been looked up already. -/
theorem exists_debug_of_render (rendered : render devfile params = .ok desired)
    (asked : params.debug = true) :
    ∃ found, devfile.resolveCommand .debug params.overrides.debug = .ok found := by
  obtain ⟨synthesized, containers, preStart, stages⟩ := exists_stages_of_render rendered
  have required := stages.debug
  rw [Devfile.requireDebug, if_pos asked] at required
  obtain ⟨found, resolved, -⟩ := Checked.bind_eq_ok_iff.mp required
  exact ⟨found, resolved⟩

/-- Once a devfile is rendered, only its postStart event stands between it and a plan. -/
theorem pushPlan_yields_of_render (rendered : render devfile params = .ok desired) :
    Yields (devfile.pushPlan params) (fun _ => devfile.InOrder .postStart)
      (devfile.TellsOf .postStart) := by
  have expands := expandEvent_yields_failure devfile .postStart
  unfold Devfile.pushPlan
  rw [rendered]
  by_cases asked : params.debug = true
  · obtain ⟨found, resolved⟩ := exists_debug_of_render rendered asked
    simp only [if_pos asked]
    rw [resolved]
    exact expands.bind fun postStart _ inOrder => inOrder
  · simp only [if_neg asked]
    exact expands.bind fun postStart _ inOrder => inOrder

namespace MemoryCluster

/-- A push of a rendered devfile fails for another reason than the cluster exactly if the
postStart event is not in order. The failure tells of an id of the event, and the cluster is as
it was. -/
theorem push_faulty_iff (rendered : render devfile params = .ok desired) (timeout : Duration)
    (cluster : MemoryCluster) :
    let run := push client timeout devfile params cluster
    ((∃ failure, run.1 = .error failure ∧ failure.cluster? = none) ↔
        ¬ devfile.InOrder .postStart) ∧
      ∀ failure, run.1 = .error failure → failure.cluster? = none →
        devfile.TellsOf .postStart failure ∧ run.2 = cluster := by
  intro run
  have yields := pushPlan_yields_of_render rendered
  cases planned : devfile.pushPlan params with
  | error failure =>
    have tells := yields.error planned
    have isRun : run = (.error failure, cluster) := by
      simp only [run, push, planned]
      rfl
    rw [isRun]
    refine ⟨⟨fun _ => tells.not_inOrder, fun _ => ⟨failure, rfl, tells.cluster?_eq_none⟩⟩, ?_⟩
    rintro _ ⟨⟩ -
    exact ⟨tells, rfl⟩
  | ok plan =>
    have isRun : run = plan.run client timeout devfile params.settings.shell cluster := by
      simp only [run, push, planned]
    have onlyCluster : ∀ failure, run.1 = .error failure → failure.cluster? ≠ none := by
      intro failure failed notCluster
      rw [isRun] at failed
      obtain ⟨cause, rfl⟩ := (run_failsAsCluster planned _).error trivial (Prod.ext failed rfl)
      cases notCluster
    constructor
    · constructor
      · rintro ⟨failure, failed, notCluster⟩
        exact absurd notCluster (onlyCluster failure failed)
      · intro faulty
        exact absurd (yields.ok planned) faulty
    · intro failure failed notCluster
      exact absurd notCluster (onlyCluster failure failed)

/-- The sample component with an event after its start that names no command. -/
def haunted : Devfile :=
  { Devfile.sample [] with events := { postStart := ["ghost"] } }

theorem exists_render_haunted : ∃ desired, render haunted {} = .ok desired := by
  have renders : (render haunted {}).toOption.any (fun _ => true) = true := by decide +kernel
  obtain ⟨desired, rendered, -⟩ := Checked.exists_of_any_toOption renders
  exact ⟨desired, rendered⟩

/-- It cannot be pushed to any cluster, although it renders. -/
theorem push_faulty_iff_sample :
    ∃ desired, render haunted {} = .ok desired ∧ ∀ timeout cluster,
      ∃ failure, (push client timeout haunted {} cluster).1 = .error failure ∧
        failure.cluster? = none := by
  obtain ⟨desired, rendered⟩ := exists_render_haunted
  refine ⟨desired, rendered, fun timeout cluster => ?_⟩
  refine (push_faulty_iff rendered timeout cluster).1.mpr ?_
  intro inOrder
  obtain ⟨⟨named, isNamed⟩, -⟩ := inOrder "ghost" (List.mem_singleton_self _)
  have missing : haunted.Unknown "ghost" := Devfile.commandByKey?_eq_none_iff.mp (by rfl)
  exact isNamed.not_unknown missing

/-- So the cluster is not the only one to find fault with what has been rendered. -/
theorem exists_fault_of_rendered :
    ¬ ∀ (devfile : Devfile) (params : PushParameters) (desired : DesiredComponent)
      (timeout : Duration) (cluster : MemoryCluster) (failure : Failure),
      render devfile params = .ok desired →
      (push client timeout devfile params cluster).1 = .error failure →
      ∃ cause, failure = .cluster cause := by
  intro claim
  obtain ⟨desired, rendered⟩ := exists_render_haunted
  have faulty : (match (push client ⟨0⟩ haunted {} (empty none)).1 with
      | .ok _ => false
      | .error failure => failure.cluster?.isNone) = true := by decide +kernel
  cases failed : (push client ⟨0⟩ haunted {} (empty none)).1 with
  | ok outcome =>
    rw [failed] at faulty
    cases faulty
  | error failure =>
    obtain ⟨cause, rfl⟩ := claim haunted {} desired ⟨0⟩ (empty none) failure rendered failed
    rw [failed] at faulty
    cases faulty

end MemoryCluster

end DevfilePush
