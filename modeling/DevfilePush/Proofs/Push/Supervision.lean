import DevfilePush.Cluster.InMemory
import DevfilePush.Proofs.Collection.OrderedMap
import DevfilePush.Proofs.Push.Execution
import DevfilePush.Proofs.Synthesis.Supervisor

/-!
What a push starts.

A push starts a program only in a container that it finds to run the supervisor, and says
so in its outcome. For the run command there always is one: rendering has chosen the
command, checked it and wrapped its container (`Supervised`). So whatever the cluster does, a
push that succeeds outside debug mode has started the run command. In debug mode it has started
the debug command, unless that is a composite command, which the supervisor cannot run
(`push_started`).
-/

namespace DevfilePush

open Kubernetes (Pod)
open Session (Ensures)

/-! ### Rendered components -/

/-- A component whose commands serve their groups and whose run command has a container to
be started in. -/
structure Supervised (devfile : Devfile) (params : PushParameters) (desired : DesiredComponent) :
    Prop where
  serves : ∀ entry ∈ desired.commands.entries, devfile.Serves entry.1 entry.2
  run : ∃ run body, desired.commands.get? .run = some run ∧ run.body = .exec body ∧
    body.component ∈ containerNames desired.containers ∧ Hosts desired.containers body.component
  bootstrap : desired.initContainers.head? =
    some (Supervisor.bootstrapContainer params.settings.bootstrapImage)

variable {devfile : Devfile} {params : PushParameters} {desired : DesiredComponent}

/-- Rendering has seen to it that the run command serves its group and that its container runs the
supervisor. -/
theorem supervised_of_render (rendered : render devfile params = .ok desired) :
    Supervised devfile params desired := by
  obtain ⟨synthesized, containers, preStart, stages⟩ := exists_stages_of_render rendered
  obtain ⟨run, isRun, foundRun⟩ := Devfile.exists_run_of_resolvePushSet stages.commands
  have serves : devfile.Serves .run run := Devfile.serves_of_findCommand foundRun
  obtain ⟨body, isExec⟩ := serves.exists_exec
  have hosts : Hosts desired.containers body.component := by
    rw [stages.containers_eq]
    exact hosts_run_of_wrapContainers foundRun stages.isWrapped isExec
  refine ⟨?_, ⟨run, body, isRun, isExec, ?_, hosts⟩, ?_⟩
  · rintro ⟨kind, command⟩ mem
    exact Devfile.serves_of_get? stages.commands (OrderedMap.get?_eq_some_iff.mpr mem)
  · rw [containerNames_of_render rendered]
    exact component_mem_of_validateCommand serves.valid isExec
  · rw [stages.initContainers_eq, if_pos stages.any_isWrapped]
    rfl

theorem hosts_debug_of_render {debug : Command} {body : ExecBody}
    (rendered : render devfile params = .ok desired)
    (resolved : devfile.resolveCommand .debug params.overrides.debug = .ok (some debug))
    (isExec : debug.body = .exec body) : Hosts desired.containers body.component := by
  obtain ⟨synthesized, containers, preStart, stages⟩ := exists_stages_of_render rendered
  obtain ⟨run, -, foundRun⟩ := Devfile.exists_run_of_resolvePushSet stages.commands
  rw [stages.containers_eq]
  exact hosts_debug_of_wrapContainers foundRun stages.isWrapped
    (Devfile.findCommand_of_resolveCommand resolved) isExec

/-! ### The program of a plan -/

/-- A container that runs the supervisor is taken for what it is. -/
theorem supervisedContainer?_of_hosts {command : Option Command}
    (hosts : ∀ body, command.bind Command.exec? = some body →
      Hosts desired.containers body.component) :
    desired.supervisedContainer? command =
      (command.bind Command.exec?).map ExecBody.component := by
  unfold DesiredComponent.supervisedContainer?
  cases isExec : command.bind Command.exec? with
  | none => rfl
  | some body => exact if_pos (hosts body isExec).any_named

/-- The program that a push reports: that of the plan, if there is a container for it. -/
def PushPlan.started (plan : PushPlan) : Option Supervisor.Program :=
  let (program, command) := plan.desired.program plan.debug
  (plan.desired.supervisedContainer? command).map fun _ => program

namespace Plans

variable {plan : PushPlan} (plans : Plans devfile params plan)

include plans

/-- Outside debug mode it is the run command that is started. -/
theorem program_run (notAsked : params.debug = false) :
    plan.desired.program plan.debug = (.run, plan.desired.commands.get? .run) := by
  rw [plans.debug_eq_none notAsked]
  rfl

/-- In debug mode there is a debug command, or rendering would have failed. -/
theorem exists_program_debug (asked : params.debug = true) :
    ∃ debug, plan.desired.program plan.debug = (.debug, some debug) ∧
      devfile.resolveCommand .debug params.overrides.debug = .ok (some debug) := by
  obtain ⟨debug, isDebug, resolved⟩ := plans.exists_debug asked
  refine ⟨debug, ?_, resolved⟩
  rw [isDebug]
  rfl

/-- Whichever program is to be started, its container runs the supervisor. -/
theorem hosts_program {body : ExecBody}
    (isExec : (plan.desired.program plan.debug).2.bind Command.exec? = some body) :
    Hosts plan.desired.containers body.component := by
  cases asked : params.debug with
  | false =>
    obtain ⟨run, runBody, isRun, isBody, -, hosts⟩ := (supervised_of_render plans.rendered).run
    rw [plans.program_run asked, isRun, Option.bind_some, Command.exec?, isBody] at isExec
    cases isExec
    exact hosts
  | true =>
    obtain ⟨debug, isProgram, resolved⟩ := plans.exists_program_debug asked
    rw [isProgram, Option.bind_some] at isExec
    exact hosts_debug_of_render plans.rendered resolved (Command.exec?_eq_some_iff.mp isExec)

/-- The container of a program is that of its command, since it runs the supervisor. -/
theorem supervisedContainer?_program :
    plan.desired.supervisedContainer? (plan.desired.program plan.debug).2 =
      ((plan.desired.program plan.debug).2.bind Command.exec?).map ExecBody.component :=
  supervisedContainer?_of_hosts fun _ isExec => plans.hosts_program isExec

/-- What is started is the program, provided that its command is an exec command. -/
theorem started_eq :
    plan.started = ((plan.desired.program plan.debug).2.bind Command.exec?).map
      fun _ => (plan.desired.program plan.debug).1 := by
  unfold PushPlan.started
  dsimp only
  rw [plans.supervisedContainer?_program, Option.map_map]
  rfl

/-- A run command always is one, so the run program is started. -/
theorem started_run (notAsked : params.debug = false) : plan.started = some .run := by
  obtain ⟨run, body, isRun, isExec, -⟩ := (supervised_of_render plans.rendered).run
  rw [plans.started_eq, plans.program_run notAsked, isRun, Option.bind_some, Command.exec?, isExec]
  rfl

/-- Whether the debug program is started is up to the body of the debug command. -/
theorem started_debug (asked : params.debug = true) :
    ∃ debug, devfile.resolveCommand .debug params.overrides.debug = .ok (some debug) ∧
      plan.started = match debug.body with
        | .exec _ => some .debug
        | .composite _ => none := by
  obtain ⟨debug, isProgram, resolved⟩ := plans.exists_program_debug asked
  refine ⟨debug, resolved, ?_⟩
  rw [plans.started_eq, isProgram, Option.bind_some, Command.exec?]
  cases debug.body <;> rfl

end Plans

/-! ### Pushes -/

variable {σ : Type} {client : ClusterClient σ} {timeout : Duration}

theorem startProgram_ensures {pod : String} {debug : Option Command} :
    Ensures (fun _ => True) (startProgram client desired pod debug)
      (fun started _ => started =
        (desired.supervisedContainer? (desired.program debug).2).map
          fun _ => (desired.program debug).1)
      fun _ _ => True := by
  unfold startProgram
  dsimp only
  cases desired.supervisedContainer? (desired.program debug).2 with
  | none => exact .pure fun _ _ => rfl
  | some container => exact (Session.ensures_trivial _).bind fun _ => .pure fun _ _ => rfl

/-- What a push reports does not depend on what the cluster does. -/
theorem run_starts {plan : PushPlan} {shell : String} :
    Ensures (fun _ => True) (plan.run client timeout devfile shell)
      (fun outcome _ => outcome.started = plan.started) fun _ _ => True := by
  refine (Session.ensures_trivial _).bind fun outcome => ?_
  refine (Session.ensures_trivial _).bind fun before => ?_
  refine startProgram_ensures.bind fun started => ?_
  refine .ofFact (fun _ isStarted => isStarted) fun isStarted => ?_
  have last := Session.ensures_trivial
    (executeAll client devfile outcome.pod shell (plan.after outcome.action))
  refine (last.weaken (fun _ _ => trivial) (fun _ _ _ => trivial) fun _ _ _ => trivial).bind ?_
  exact fun after => .pure fun _ _ => isStarted

/-- Outside debug mode, a push that succeeds has started the run command. In debug mode it
has started the debug command, if that is an exec command. -/
theorem push_started (devfile : Devfile) (params : PushParameters) :
    (∀ desired, render devfile params = .ok desired → Supervised devfile params desired) ∧
      ∀ {σ : Type} (client : ClusterClient σ) (timeout : Duration) (s t : σ) outcome,
        push client timeout devfile params s = (.ok outcome, t) →
        (params.debug = false → outcome.started = some .run) ∧
          (params.debug = true → ∃ debug,
            devfile.resolveCommand .debug params.overrides.debug = .ok (some debug) ∧
              outcome.started = match debug.body with
                | .exec _ => some .debug
                | .composite _ => none) := by
  refine ⟨fun desired rendered => supervised_of_render rendered, ?_⟩
  intro σ client timeout s t outcome done
  unfold push at done
  cases planned : devfile.pushPlan params with
  | error failure =>
    rw [planned] at done
    cases done
  | ok plan =>
    rw [planned] at done
    have plans := plans_of_pushPlan planned
    rw [run_starts.ok trivial done]
    exact ⟨plans.started_run, plans.started_debug⟩

/-- The sample component with a command to debug it. -/
def Devfile.debuggable : Devfile :=
  { Devfile.sample [] with
    commands := (Devfile.sample []).commands ++
      [⟨"inspect", .exec
        { component := "main", commandLine := "make debug", group := some ⟨.debug, true⟩ }⟩] }

/-- It is started by one command or by the other. -/
theorem push_started_sample :
    let cluster := MemoryCluster.empty (some Pod.runningPhase)
    (∃ outcome after,
        push MemoryCluster.client ⟨0⟩ .debuggable {} cluster = (.ok outcome, after) ∧
          outcome.started = some .run) ∧
      ∃ outcome after debug,
        push MemoryCluster.client ⟨0⟩ .debuggable { debug := true } cluster =
            (.ok outcome, after) ∧
          Devfile.debuggable.resolveCommand .debug none = .ok (some debug) ∧
          outcome.started = match debug.body with
            | .exec _ => some .debug
            | .composite _ => none := by
  intro cluster
  have succeeds (debug : Bool) :
      (push MemoryCluster.client ⟨0⟩ .debuggable { debug } cluster).1.toOption.any
        (fun _ => true) = true := by
    cases debug <;> decide +kernel
  have done (debug : Bool) : ∃ outcome after,
      push MemoryCluster.client ⟨0⟩ .debuggable { debug } cluster = (.ok outcome, after) := by
    obtain ⟨outcome, isOutcome, -⟩ := Checked.exists_of_any_toOption (succeeds debug)
    exact ⟨outcome, _, Prod.ext isOutcome rfl⟩
  constructor
  · obtain ⟨outcome, after, done⟩ := done false
    exact ⟨outcome, after, done, ((push_started _ _).2 _ _ _ _ _ done).1 rfl⟩
  · obtain ⟨outcome, after, done⟩ := done true
    obtain ⟨debug, resolved, started⟩ := ((push_started _ _).2 _ _ _ _ _ done).2 rfl
    exact ⟨outcome, after, debug, done, resolved, started⟩

end DevfilePush
