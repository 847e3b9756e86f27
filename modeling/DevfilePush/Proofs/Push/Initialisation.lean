import DevfilePush.Proofs.Push.Execution
import DevfilePush.Proofs.Push.Schedule
import DevfilePush.Proofs.Push.SoleComponent

/-!
When a component has been prepared.

The init command of a component belongs to its creation: the attempt to push that creates
the Deployment goes on to run it, and later attempts do not, since the Deployment is there
then. So a component that is reported as started has been prepared by the attempt that
created it, unless that attempt failed before the init command was through.
-/

namespace DevfilePush

open Session (Ensures Keeps)

namespace MemoryCluster

variable {timeout : Duration} {devfile : Devfile} {params : PushParameters} {plan : PushPlan}
  {pod shell : String} {leaves : List Command} {setting : Setting}

/-! ### Running the parts of a command -/

/-- The exec command ends well where the cluster behaves and is as given. -/
def RunsWell (behaviour : ClusterBehaviour) (objects : ClusterObjects) (pod shell : String)
    (body : ExecBody) : Prop :=
  (programResult behaviour objects pod body.component (body.invocation shell)).failure = none

/-- Since `calls` were all, every leaf has been run and has ended well. -/
def Prepared (calls : List Call) (shell : String) (leaves : List Command)
    (cluster : MemoryCluster) : Prop :=
  ∃ pod, calls ++ leafCalls pod shell leaves <+: cluster.execCalls ∧
    ∀ body ∈ leaves.filterMap Command.exec?,
      RunsWell cluster.behaviour cluster.objects pod shell body

/-- Since `calls` were all, at most some first leaves have been run. -/
def Unprepared (calls : List Call) (shell : String) (leaves : List Command)
    (cluster : MemoryCluster) : Prop :=
  ∃ pod ran, ran <+: leafCalls pod shell leaves ∧ cluster.execCalls = calls ++ ran

/-- Since `calls` were all, the leaves have been run as far as they go without a failure. -/
def Tried (calls : List Call) (shell : String) (leaves : List Command)
    (cluster : MemoryCluster) : Prop :=
  Prepared calls shell leaves cluster ∨ Unprepared calls shell leaves cluster

theorem execBody_ensures (behaviour : ClusterBehaviour) (calls : List Call)
    (objects : ClusterObjects) (body : ExecBody) :
    Ensures (Under ⟨behaviour, calls⟩ (· = objects))
      (client.execOrFail pod body.component (body.invocation shell))
      (fun _ cluster =>
        Under ⟨behaviour, calls ++ [execCall pod shell body]⟩ (· = objects) cluster ∧
          RunsWell behaviour objects pod shell body)
      (fun _ cluster => cluster.execCalls = calls ++ [execCall pod shell body]) := by
  refine execOrFail_ensures ?_ ?_
  · rintro cluster failure ⟨same, rfl⟩ -
    cases same
    exact execCalls_record rfl
  · rintro cluster lines ⟨same, rfl⟩ well
    cases same
    exact ⟨⟨congrArg (Setting.mk cluster.behaviour) (execCalls_record rfl), rfl⟩, well⟩

/-- The induction is on the leaves to come; `calls` are those that have been run before. -/
theorem runLeaves_ensures (behaviour : ClusterBehaviour) (calls : List Call)
    (objects : ClusterObjects) (leaves : List Command) :
    Ensures (Under ⟨behaviour, calls⟩ (· = objects)) (runLeaves client pod shell leaves)
      (fun _ cluster =>
        Under ⟨behaviour, calls ++ leafCalls pod shell leaves⟩ (· = objects) cluster ∧
          ∀ body ∈ leaves.filterMap Command.exec?, RunsWell behaviour objects pod shell body)
      (fun _ cluster => ∃ ran, ran <+: leafCalls pod shell leaves ∧
        cluster.execCalls = calls ++ ran) := by
  induction leaves generalizing calls with
  | nil =>
    refine .pure ?_
    intro cluster holds
    simpa [leafCalls] using holds
  | cons leaf rest ih =>
    unfold runLeaves
    cases isBody : leaf.body with
    | composite body =>
      have others := ih calls
      simpa [leafCalls, Command.exec?, isBody] using others
    | exec body =>
      have isExec : leaf.exec? = some body := by simp [Command.exec?, isBody]
      have isCalls : leafCalls pod shell (leaf :: rest) =
          execCall pod shell body :: leafCalls pod shell rest := by
        simp [leafCalls, isExec]
      rw [isCalls]
      have first : Ensures (Under ⟨behaviour, calls⟩ (· = objects))
          (client.execOrFail pod body.component (body.invocation shell))
          (fun _ cluster =>
            Under ⟨behaviour, calls ++ [execCall pod shell body]⟩ (· = objects) cluster ∧
              RunsWell behaviour objects pod shell body)
          (fun _ cluster => ∃ ran, ran <+: execCall pod shell body :: leafCalls pod shell rest ∧
            cluster.execCalls = calls ++ ran) := by
        refine (execBody_ensures behaviour calls objects body).weaken (fun _ holds => holds)
          (fun _ _ done => done) ?_
        intro failure cluster recorded
        exact ⟨[execCall pod shell body], List.prefix_cons_inj _ |>.mpr List.nil_prefix, recorded⟩
      refine first.bind fun lines => ?_
      refine .ofFact (fun cluster holds => holds.2) fun well => ?_
      have others : Ensures
          (fun cluster =>
            Under ⟨behaviour, calls ++ [execCall pod shell body]⟩ (· = objects) cluster ∧
              RunsWell behaviour objects pod shell body)
          (runLeaves client pod shell rest)
          (fun _ cluster =>
            Under ⟨behaviour, calls ++ execCall pod shell body :: leafCalls pod shell rest⟩
              (· = objects) cluster ∧
              ∀ body ∈ (leaf :: rest).filterMap Command.exec?,
                RunsWell behaviour objects pod shell body)
          (fun _ cluster => ∃ ran, ran <+: execCall pod shell body :: leafCalls pod shell rest ∧
            cluster.execCalls = calls ++ ran) := by
        refine (ih (calls ++ [execCall pod shell body])).weaken (fun _ holds => holds.1) ?_ ?_
        · rintro outputs cluster ⟨under, allWell⟩
          rw [List.append_assoc] at under
          refine ⟨under, ?_⟩
          intro other mem
          rw [List.filterMap_cons_some isExec] at mem
          rcases List.mem_cons.mp mem with rfl | mem
          · exact well
          · exact allWell other mem
        · rintro failure cluster ⟨ran, isPrefix, recorded⟩
          refine ⟨execCall pod shell body :: ran, (List.prefix_cons_inj _).mpr isPrefix, ?_⟩
          rw [recorded, List.append_assoc]
          rfl
      refine others.bind fun outputs => ?_
      exact .pure fun _ done => done

/-! ### Creating a component -/

/-- Nothing that is run later undoes the preparation. -/
theorem prepared_keeps (calls : List Call) (shell : String) (leaves : List Command)
    (pod container : String) (program : List String) :
    Keeps (Prepared calls shell leaves) (client.execOrFail pod container program)
      fun _ => Tried calls shell leaves := by
  have kept : ∀ cluster, Prepared calls shell leaves cluster →
      Prepared calls shell leaves
        (cluster.record ⟨.exec, pod ++ "/" ++ container, program⟩) := by
    rintro cluster ⟨home, ran, ended⟩
    refine ⟨home, ?_, ended⟩
    rw [execCalls_record rfl]
    exact ran.trans (List.prefix_append _ _)
  exact execOrFail_ensures (fun cluster _ holds _ => .inl (kept cluster holds))
    fun cluster _ holds _ => kept cluster holds

/-- Running the leaves prepares the component, or fails on the way. -/
theorem runLeaves_prepares (setting : Setting) (pod shell : String) (leaves : List Command) :
    Ensures (fun cluster => cluster.setting = setting) (runLeaves client pod shell leaves)
      (fun _ => Prepared setting.execCalls shell leaves)
      fun _ => Tried setting.execCalls shell leaves := by
  intro cluster same
  refine ((runLeaves_ensures setting.behaviour setting.execCalls cluster.objects leaves).weaken
    (fun _ holds => holds) ?_ ?_) cluster ⟨same, rfl⟩
  · rintro outputs after ⟨⟨isSetting, isObjects⟩, ended⟩
    have behaves : after.behaviour = setting.behaviour := congrArg Setting.behaviour isSetting
    have recorded : after.execCalls = setting.execCalls ++ leafCalls pod shell leaves :=
      congrArg Setting.execCalls isSetting
    refine ⟨pod, ?_, ?_⟩
    · exact recorded ▸ List.prefix_refl _
    · rw [behaves, isObjects]
      exact ended
  · rintro failure after ⟨ran, isPrefix, recorded⟩
    exact .inr ⟨pod, ran, isPrefix, recorded⟩

/-- A push that creates the component prepares it, unless it fails first. -/
theorem run_prepares {objects : ClusterObjects} {init : Command}
    (plans : Plans devfile params plan) (chosen : plan.desired.commands.get? .init = some init)
    (isExpanded : devfile.flatten init = .ok leaves) (absent : plan.desired.live? objects = none) :
    Ensures (Under setting (· = objects)) (plan.run client timeout devfile shell)
      (fun _ => Prepared setting.execCalls shell leaves)
      fun _ => Tried setting.execCalls shell leaves := by
  have creates : Ensures (Under setting (· = objects)) (reconcile client timeout plan.desired)
      (fun outcome cluster => outcome.action = .created ∧ cluster.setting = setting)
      fun _ => Tried setting.execCalls shell leaves := by
    have advances : Advances setting timeout plan.desired objects (· = objects)
        (reconcile client timeout plan.desired) _ := reconcile_advances plans.isRendered
    refine advances.weaken (fun _ holds => holds) ?_ ?_
    · rintro outcome cluster ⟨same, reconciled⟩
      have action := reconciled.action
      rw [absent] at action
      exact ⟨action, same⟩
    · rintro failure cluster ⟨same, -⟩
      refine .inr ⟨"", [], List.nil_prefix, ?_⟩
      rw [List.append_nil]
      exact congrArg Setting.execCalls same
  refine creates.bind fun outcome => ?_
  refine .ofFact (fun cluster holds => holds.1) fun isCreated => ?_
  have before : plan.before outcome.action =
      init :: (plan.desired.commands.get? .build).toList := by
    simp [PushPlan.before, isCreated, chosen]
  have expandable : ∀ command ∈ (plan.desired.commands.get? .build).toList,
      devfile.Expandable command := by
    intro command mem
    exact plans.expandable_of_get? (Option.mem_toList.mp mem)
  have prepares : Ensures (fun cluster => outcome.action = .created ∧ cluster.setting = setting)
      (executeAll client devfile outcome.pod shell (plan.before outcome.action))
      (fun _ => Prepared setting.execCalls shell leaves)
      fun _ => Tried setting.execCalls shell leaves := by
    rw [before, executeAll, executeCommand, isExpanded]
    refine ((runLeaves_prepares setting outcome.pod shell leaves).weaken
      (fun _ holds => holds.2) (fun _ _ done => done) fun _ _ failed => failed).bind
      fun outputs => ?_
    refine Ensures.bind (executeAll_keeps (prepared_keeps _ shell leaves) expandable)
      fun others => ?_
    exact .pure fun _ holds => holds
  refine prepares.bind fun outputs => ?_
  refine Ensures.bind (startProgram_keeps (prepared_keeps _ shell leaves) _ _) fun started => ?_
  refine Ensures.bind (executeAll_keeps (prepared_keeps _ shell leaves)
    fun command mem => plans.expandable_after mem) fun after => ?_
  exact .pure fun _ holds => holds

/-! ### Pushing again and again -/

/-- Programs leave the objects alone. -/
theorem objects_keeps {holds holdsAtLeast : ClusterObjects → Prop}
    (weaker : ∀ objects, holds objects → holdsAtLeast objects) (pod container : String)
    (program : List String) :
    Keeps (fun cluster => holds cluster.objects) (client.execOrFail pod container program)
      fun _ cluster => holdsAtLeast cluster.objects :=
  execOrFail_ensures (fun _ _ kept _ => weaker _ kept) fun _ _ kept _ => kept

/-- Reconciling is over, and the Deployment is stored. -/
def Placed (phase : Option String) (desired : DesiredComponent) (before after : ClusterObjects) :
    Prop :=
  Progress phase desired before after ∧ after.deployments.get? desired.name ≠ none

theorem run_places {objects : ClusterObjects} (plans : Plans devfile params plan) :
    Ensures (Under setting (· = objects)) (plan.run client timeout devfile shell)
      (fun outcome cluster => outcome.component = plan.desired.name ∧
        Placed setting.behaviour.scheduledPodPhase plan.desired objects cluster.objects)
      fun _ cluster =>
        Progress setting.behaviour.scheduledPodPhase plan.desired objects cluster.objects := by
  have places : Ensures (Under setting (· = objects)) (reconcile client timeout plan.desired)
      (fun _ cluster =>
        Placed setting.behaviour.scheduledPodPhase plan.desired objects cluster.objects)
      fun _ cluster =>
        Progress setting.behaviour.scheduledPodPhase plan.desired objects cluster.objects := by
    have advances : Advances setting timeout plan.desired objects (· = objects)
        (reconcile client timeout plan.desired) _ := reconcile_advances plans.isRendered
    refine advances.weaken (fun _ holds => holds) ?_ fun _ _ failed => failed.2.progress
    rintro outcome cluster ⟨-, reconciled⟩
    obtain ⟨stored, -, -, -, deployments⟩ := reconciled.deployed.deployments
    refine ⟨.service reconciled.deployed reconciled.settled, ?_⟩
    rw [deployments, OrderedMap.get?_insert_self]
    nofun
  have programs : ∀ pod container program,
      Keeps
        (fun cluster =>
          Placed setting.behaviour.scheduledPodPhase plan.desired objects cluster.objects)
        (client.execOrFail pod container program)
        fun _ cluster =>
          Progress setting.behaviour.scheduledPodPhase plan.desired objects cluster.objects :=
    objects_keeps fun _ placed => placed.1
  refine places.bind fun outcome => ?_
  refine Ensures.bind (executeAll_keeps programs
    fun command mem => plans.expandable_before mem) fun before => ?_
  refine Ensures.bind (startProgram_keeps programs _ _) fun started => ?_
  refine Ensures.bind (executeAll_keeps programs
    fun command mem => plans.expandable_after mem) fun after => ?_
  exact .pure fun _ placed => ⟨rfl, placed⟩

/-- An attempt to push. -/
def pushTrial (timeout : Duration) (devfile : Devfile) (params : PushParameters)
    (behaviour : ClusterBehaviour) : Trial PushOutcome :=
  ⟨behaviour, push client timeout devfile params⟩

end MemoryCluster

namespace TrialRun

variable {α : Type}

/-- The programs that have been run in a trial. -/
def execCalls (run : TrialRun α) : List Call :=
  run.after.execCalls.drop run.before.execCalls.length

/-- In this trial the Deployment called `name` was stored, where none had been. -/
def Creates (run : TrialRun α) (name : String) : Prop :=
  run.before.objects.deployments.get? name = none ∧
    run.after.objects.deployments.get? name ≠ none

/-- In this trial the exec command was run in some pod, and it ended well. -/
def Executed (run : TrialRun α) (shell : String) (body : ExecBody) : Prop :=
  ∃ pod, MemoryCluster.execCall pod shell body ∈ run.execCalls ∧
    MemoryCluster.RunsWell run.after.behaviour run.after.objects pod shell body

variable {run : TrialRun α} {shell : String} {leaves : List Command}

theorem executed_of_prepared
    (prepared : MemoryCluster.Prepared run.before.execCalls shell leaves run.after) :
    ∀ body ∈ leaves.filterMap Command.exec?, run.Executed shell body := by
  obtain ⟨pod, ⟨more, all⟩, ended⟩ := prepared
  intro body mem
  refine ⟨pod, ?_, ended body mem⟩
  have since : run.execCalls = MemoryCluster.leafCalls pod shell leaves ++ more := by
    rw [execCalls, ← all, List.append_assoc, List.drop_left]
  rw [since]
  exact List.mem_append_left _ (List.mem_map.mpr ⟨body, mem, rfl⟩)

theorem execCalls_prefix_of_unprepared
    (unprepared : MemoryCluster.Unprepared run.before.execCalls shell leaves run.after) :
    ∃ pod, run.execCalls <+: MemoryCluster.leafCalls pod shell leaves := by
  obtain ⟨pod, ran, isPrefix, all⟩ := unprepared
  refine ⟨pod, ?_⟩
  rw [execCalls, all, List.drop_left]
  exact isPrefix

end TrialRun

namespace MemoryCluster

variable {timeout : Duration} {devfile : Devfile} {params : PushParameters} {plan : PushPlan}

/-- An attempt to push that succeeds has a plan. -/
theorem exists_plan_of_run {start : MemoryCluster} {behaviour : ClusterBehaviour}
    {outcome : PushOutcome}
    (succeeded : (start.run (pushTrial timeout devfile params behaviour)).result = .ok outcome) :
    ∃ plan, devfile.pushPlan params = .ok plan := by
  cases planned : devfile.pushPlan params with
  | ok plan => exact ⟨plan, rfl⟩
  | error failure =>
    change (push client timeout devfile params _).1 = .ok outcome at succeeded
    rw [push, planned] at succeeded
    cases succeeded

variable (planned : devfile.pushPlan params = .ok plan)

include planned

theorem work_pushTrial (timeout : Duration) (behaviour : ClusterBehaviour) :
    (pushTrial timeout devfile params behaviour).work =
      plan.run client timeout devfile params.settings.shell := by
  change push client timeout devfile params = _
  rw [push, planned]

/-- An attempt that succeeds stores the Deployment, and one that fails gets to a stage. -/
theorem run_pushTrial_places (start : MemoryCluster) (timeout : Duration)
    (behaviour : ClusterBehaviour) :
    let run := start.run (pushTrial timeout devfile params behaviour)
    (∀ outcome, run.result = .ok outcome → outcome.component = plan.desired.name ∧
      Placed behaviour.scheduledPodPhase plan.desired start.objects run.after.objects) ∧
      ∀ failure, run.result = .error failure →
        Progress behaviour.scheduledPodPhase plan.desired start.objects run.after.objects := by
  have places : Ensures (Under (start.behaving behaviour).setting (· = start.objects))
      (plan.run client timeout devfile params.settings.shell) _ _ :=
    run_places (plans_of_pushPlan planned)
  exact run_ensures (work_pushTrial planned timeout behaviour) places ⟨rfl, rfl⟩

/-- Attempts to push one component leave it alone on the cluster. -/
theorem sole_pushTrials (timeout : Duration) (behaviours : List ClusterBehaviour) :
    KeptByTrials (SoleComponent plan.desired.name)
      (behaviours.map (pushTrial timeout devfile params)) := by
  have rendered := (plans_of_pushPlan planned).isRendered
  intro trial mem start sole
  obtain ⟨behaviour, -, rfl⟩ := List.mem_map.mp mem
  obtain ⟨placed, stopped⟩ := run_pushTrial_places planned start timeout behaviour
  cases isResult : (start.run (pushTrial timeout devfile params behaviour)).result with
  | ok outcome => exact sole.of_progress rendered (placed outcome isResult).2.1
  | error failure => exact sole.of_progress rendered (stopped failure isResult)

/-- An attempt that creates the component prepares it, or fails before it has. -/
theorem run_pushTrial_prepares {init : Command} {leaves : List Command} {start : MemoryCluster}
    (chosen : plan.desired.commands.get? .init = some init)
    (isExpanded : devfile.flatten init = .ok leaves)
    (absent : plan.desired.live? start.objects = none) (timeout : Duration)
    (behaviour : ClusterBehaviour) :
    let run := start.run (pushTrial timeout devfile params behaviour)
    Prepared run.before.execCalls params.settings.shell leaves run.after ∨
      (∃ failure, run.result = .error failure) ∧
        Unprepared run.before.execCalls params.settings.shell leaves run.after := by
  intro run
  have prepares : Ensures (Under (start.behaving behaviour).setting (· = start.objects))
      (plan.run client timeout devfile params.settings.shell) _ _ :=
    run_prepares (plans_of_pushPlan planned) chosen isExpanded absent
  obtain ⟨prepared, stopped⟩ :=
    run_ensures (work_pushTrial planned timeout behaviour) prepares ⟨rfl, rfl⟩
  cases isResult : run.result with
  | ok outcome => exact .inl (prepared outcome isResult)
  | error failure =>
    rcases stopped failure isResult with isPrepared | unprepared
    · exact .inl isPrepared
    · exact .inr ⟨⟨failure, rfl⟩, unprepared⟩

omit planned in
/-- When an attempt to push succeeds, it or an earlier one has created the component. That
one has run the whole init command, every part of which ended well, unless it failed
itself and had run no more than first parts of the init command. -/
theorem exists_creation {init : Command}
    (resolved : devfile.resolveCommand .init (params.overrides.get? .init) = .ok (some init))
    {phase : Option String} {behaviours : List ClusterBehaviour}
    {earlier later : List (TrialRun PushOutcome)} {last : TrialRun PushOutcome}
    (split : (empty phase).runs (behaviours.map (pushTrial timeout devfile params)) =
      earlier ++ last :: later)
    {outcome : PushOutcome} (succeeded : last.result = .ok outcome) :
    ∃ leaves, devfile.flatten init = .ok leaves ∧
      ∃ creation ∈ earlier ++ [last], creation.Creates outcome.component ∧
        ((∀ body ∈ leaves.filterMap Command.exec?,
            creation.Executed params.settings.shell body) ∨
          (∃ failure, creation.result = .error failure) ∧
            ∃ pod, creation.execCalls <+: leafCalls pod params.settings.shell leaves) := by
  have isRun : last ∈ (empty phase).runs (behaviours.map (pushTrial timeout devfile params)) := by
    rw [split]
    simp
  -- The attempt that succeeded had a plan, and all attempts have the same.
  have planned : ∃ plan, devfile.pushPlan params = .ok plan := by
    obtain ⟨trial, mem, start, rfl⟩ := exists_trial_of_mem_runs isRun
    obtain ⟨behaviour, -, rfl⟩ := List.mem_map.mp mem
    exact exists_plan_of_run succeeded
  obtain ⟨plan, planned⟩ := planned
  have plans := plans_of_pushPlan planned
  have chosen : plan.desired.commands.get? .init = some init := by
    have isChosen := (Devfile.resolvePushSet_spec plans.resolved).1 .init (by decide)
    exact Except.ok.inj (isChosen.symm.trans resolved)
  obtain ⟨leaves, isExpanded⟩ := plans.expandable_of_get? chosen
  have kept := sole_pushTrials planned timeout behaviours
  have sole : SoleComponent plan.desired.name (empty phase).objects := .empty _
  -- The Deployment is there in the end, so there is an attempt that has stored it.
  have stored : outcome.component = plan.desired.name ∧
      last.after.objects.deployments.get? plan.desired.name ≠ none := by
    obtain ⟨trial, mem, start, rfl⟩ := exists_trial_of_mem_runs isRun
    obtain ⟨behaviour, -, rfl⟩ := List.mem_map.mp mem
    obtain ⟨isComponent, placed⟩ :=
      (run_pushTrial_places planned start timeout behaviour).1 outcome succeeded
    exact ⟨isComponent, placed.2⟩
  have creates : ∃ run ∈ earlier ++ [last],
      ¬ run.before.objects.deployments.get? plan.desired.name ≠ none ∧
        run.after.objects.deployments.get? plan.desired.name ≠ none :=
    exists_turn (fun objects => objects.deployments.get? plan.desired.name ≠ none) split
      (fun stored => stored rfl) stored.2
  obtain ⟨creation, isCreation, absent, present⟩ := creates
  have isAttempt : creation ∈ (empty phase).runs
      (behaviours.map (pushTrial timeout devfile params)) := by
    rw [split, ← List.singleton_append, ← List.append_assoc]
    exact List.mem_append_left _ isCreation
  refine ⟨leaves, isExpanded, creation, isCreation, ?_, ?_⟩
  · rw [stored.1]
    exact ⟨not_not.mp absent, present⟩
  · obtain ⟨trial, mem, start, rfl, soleStart⟩ := holds_of_mem_runs kept sole isAttempt
    obtain ⟨behaviour, -, rfl⟩ := List.mem_map.mp mem
    have notLive := soleStart.live?_eq_none (not_not.mp absent)
    rcases run_pushTrial_prepares planned chosen isExpanded notLive timeout behaviour with
      prepared | ⟨failed, unprepared⟩
    · exact .inl (TrialRun.executed_of_prepared prepared)
    · exact .inr ⟨failed, TrialRun.execCalls_prefix_of_unprepared unprepared⟩

omit planned in
theorem resolveCommand_sample :
    (Devfile.sample []).resolveCommand .init none = .ok (some .samplePreparation) := by
  have isResolved : ∃ init, (Devfile.sample []).resolveCommand .init none = .ok init ∧
      decide (init = some .samplePreparation) = true :=
    Checked.exists_of_any_toOption (by decide +kernel)
  obtain ⟨init, resolved, isInit⟩ := isResolved
  rw [resolved, of_decide_eq_true isInit]

/-- An attempt to push the sample. -/
def sampleTrial (behaviour : ClusterBehaviour) : Trial PushOutcome :=
  pushTrial ⟨0⟩ (.sample []) {} behaviour

omit planned in
/-- The sample is created and prepared at the first attempt. -/
theorem exists_creation_sample :
    ∃ last outcome, (empty none).runs [sampleTrial (.running none)] = [last] ∧
      last.result = .ok outcome ∧
      ∃ leaves, (Devfile.sample []).flatten .samplePreparation = .ok leaves ∧
        ∃ creation ∈ [last], creation.Creates outcome.component ∧
          ((∀ body ∈ leaves.filterMap Command.exec?, creation.Executed defaultShell body) ∨
            (∃ failure, creation.result = .error failure) ∧
              ∃ pod, creation.execCalls <+: leafCalls pod defaultShell leaves) := by
  have isOk : ((empty none).run (sampleTrial (.running none))).result.toOption.any
      (fun _ => true) = true := by decide +kernel
  obtain ⟨outcome, succeeded, -⟩ := Checked.exists_of_any_toOption isOk
  have attempts : (empty none).runs ([.running none].map sampleTrial) =
      [] ++ (empty none).run (sampleTrial (.running none)) :: [] := rfl
  exact ⟨_, outcome, rfl, succeeded, exists_creation resolveCommand_sample attempts succeeded⟩

/-! ### A component that is never prepared -/

omit planned in
/-- When the attempt that creates the sample fails at its init command, the next one succeeds
without running it. -/
theorem not_executed_of_succeeded :
    ¬ ∀ (timeout : Duration) (devfile : Devfile) (params : PushParameters) (init : Command)
      (leaves : List Command) (phase : Option String) (behaviours : List ClusterBehaviour)
      (earlier later : List (TrialRun PushOutcome)) (last : TrialRun PushOutcome)
      (outcome : PushOutcome),
      devfile.resolveCommand .init (params.overrides.get? .init) = .ok (some init) →
      devfile.flatten init = .ok leaves →
      (empty phase).runs (behaviours.map (pushTrial timeout devfile params)) =
        earlier ++ last :: later →
      last.result = .ok outcome →
      ∀ body ∈ leaves.filterMap Command.exec?,
        ∃ run ∈ earlier ++ [last], run.Executed params.settings.shell body := by
  intro claim
  let first := (empty none).run (sampleTrial (.running (some .exec)))
  let second := first.after.run (sampleTrial (.running none))
  have isOk : second.result.toOption.any (fun _ => true) = true := by decide +kernel
  obtain ⟨outcome, succeeded, -⟩ := Checked.exists_of_any_toOption isOk
  obtain ⟨run, mem, pod, isCall, well⟩ := claim ⟨0⟩ (.sample []) {} .samplePreparation
    [.samplePreparation] none [.running (some .exec), .running none] [first] [] second outcome
    resolveCommand_sample rfl rfl succeeded .samplePreparation (List.mem_singleton_self _)
  rcases List.mem_cons.mp mem with rfl | mem
  · -- Every program was made to fail.
    have injected : first.after.behaviour.failures.get? .exec = some "not now" := by
      decide +kernel
    rw [RunsWell, programResult, injected] at well
    cases well
  · -- The init command was not among the programs.
    have others : ∀ call ∈ second.execCalls,
        call.command ≠ ExecBody.samplePreparation.invocation defaultShell := by
      decide +kernel
    rw [List.mem_singleton.mp mem] at isCall
    exact others _ isCall rfl

end MemoryCluster

end DevfilePush
