import DevfilePush.Proofs.Push.Recording
import DevfilePush.Proofs.Push.Supervision

/-!
Which programs a push runs in the pod.

Once the component is reconciled, the programs of a push are fixed (`Devfile.itinerary`): the
parts of the init command, those of the build command, the two requests to the supervisor that
start the program, and the commands of the postStart event, where those of the init command and
of the event run for a new component only. They are run one by one, all in the pod that was
waited for. The first one that fails ends the push with its failure; if none does, the push
succeeds, with an output for each command (`push_itinerary`). The client may do anything, and
the programs are seen through a log (`ClusterClient.recording`).
-/

namespace DevfilePush

open Kubernetes (Pod)

/-! ### Planned programs -/

/-- A program that a push is going to run. -/
inductive PlannedExec where
  /-- An exec command, run to its end through a shell. -/
  | command (id : String) (body : ExecBody)
  /-- A request to the supervisor of a container. -/
  | control (container : String) (program : List String)
  deriving DecidableEq, Repr

namespace PlannedExec

/-- The program itself, as a client is asked to run it. -/
def request (pod shell : String) : PlannedExec → ExecRequest
  | command _ body => ⟨pod, body.component, body.invocation shell⟩
  | control container program => ⟨pod, container, program⟩

/-- What a push reports of the program: the output of a command. -/
def output? (result : ExecResult) : PlannedExec → Option ExecOutput
  | command id body => some ⟨id, body.component, result.lines⟩
  | control .. => none

/-- The id and the component of a command. -/
def leaf? : PlannedExec → Option (String × String)
  | command id body => some (id, body.component)
  | control .. => none

/-- The programs for exec commands, in order. -/
def ofLeaves (leaves : List Command) : List PlannedExec :=
  leaves.filterMap fun leaf => leaf.exec?.map (command leaf.id)

/-- The programs that have the supervisor run `program` and nothing else, if there is an exec
command behind it. -/
def ofProgram (program : Supervisor.Program) : Option ExecBody → List PlannedExec
  | none => []
  | some body =>
    [control body.component Supervisor.stopAllCommand,
      control body.component (Supervisor.startCommand program)]

/-- What a push reports of programs that have been run. -/
def outputs (steps : List PlannedExec) (made : List ExecRecord) : List ExecOutput :=
  (steps.zip made).filterMap fun (step, record) => step.output? record.result

/-- Programs and the records of them may be taken in two parts. -/
theorem outputs_append {first second : List PlannedExec} {made more : List ExecRecord}
    (same : first.length = made.length) :
    outputs (first ++ second) (made ++ more) = outputs first made ++ outputs second more := by
  rw [outputs, List.zip_append same, List.filterMap_append]
  rfl

/-- There is an output for each command, under its id and component. -/
theorem leaves_outputs {steps : List PlannedExec} {made : List ExecRecord}
    (same : steps.length = made.length) :
    (outputs steps made).map (fun output => (output.commandId, output.container)) =
      steps.filterMap leaf? := by
  induction steps generalizing made with
  | nil => rfl
  | cons step rest ih =>
    cases made with
    | nil => cases same
    | cons record others =>
      have tail := ih (Nat.succ.inj same)
      cases step with
      | command id body => exact congrArg ((id, body.component) :: ·) tail
      | control container program => exact tail

end PlannedExec

/-- The exec commands that the command of a group stands for, if the group has one. -/
def Devfile.groupLeaves (devfile : Devfile) (commands : CommandMap) (kind : GroupKind) :
    Except CommandError (List Command) :=
  match commands.get? kind with
  | none => .ok []
  | some command => devfile.flatten command

/-- The program to be started and the command behind it: the debug command in debug mode, and
otherwise the run command. -/
def Devfile.chosenProgram (devfile : Devfile) (params : PushParameters) (commands : CommandMap) :
    Except CommandError (Supervisor.Program × Option Command) := do
  if params.debug then
    return (.debug, ← devfile.resolveCommand .debug params.overrides.debug)
  else return (.run, commands.get? .run)

/-- The programs that a push runs after it has created or updated the component. -/
def Devfile.itinerary (devfile : Devfile) (params : PushParameters) (action : ReconcileAction) :
    Except Failure (List PlannedExec) := do
  let commands := (← render devfile params).commands
  let init ← (devfile.groupLeaves commands .init).mapError Failure.command
  let build ← (devfile.groupLeaves commands .build).mapError Failure.command
  let program ← (devfile.chosenProgram params commands).mapError Failure.command
  let postStart ← (devfile.expandEvent .postStart).mapError Failure.synthesis
  return (if action = .created then PlannedExec.ofLeaves init else []) ++
    PlannedExec.ofLeaves build ++
    PlannedExec.ofProgram program.1 (program.2.bind Command.exec?) ++
    if action = .created then PlannedExec.ofLeaves postStart else []

/-! ### Recorded work -/

variable {σ α β : Type}

/-- The log does not get into the way of the work, and shows that it has carried out the given
programs in the pod. What it answers has to do with the outputs of those. -/
def Traces (pod shell : String) (recorded : Session (σ × List ExecRecord) α)
    (work : Session σ α) (steps : List PlannedExec) (answer : α → List ExecOutput → Prop) : Prop :=
  ∀ s log, ∃ made,
    recorded (s, log) = ((work s).1, ((work s).2, log ++ made)) ∧
      CarriedOut (steps.map (·.request pod shell)) made (work s).1 ∧
      ∀ value, (work s).1 = .ok value → answer value (PlannedExec.outputs steps made)

namespace Traces

variable {pod shell : String} {first second : List PlannedExec}
  {answer : α → List ExecOutput → Prop}

theorem pure {value : α} (isAnswer : answer value []) :
    Traces pod shell (Pure.pure value) (Pure.pure value : Session σ α) [] answer := by
  intro s log
  refine ⟨[], by rw [List.append_nil]; rfl, .completed rfl (by simp), ?_⟩
  rintro _ ⟨⟩
  exact isAnswer

theorem bind {recorded : Session (σ × List ExecRecord) β} {work : Session σ β}
    {recordedNext : β → Session (σ × List ExecRecord) α} {next : β → Session σ α}
    {mid : β → List ExecOutput → Prop} (begins : Traces pod shell recorded work first mid)
    (goesOn : ∀ value outputs, mid value outputs →
      Traces pod shell (recordedNext value) (next value) second
        fun result others => answer result (outputs ++ others)) :
    Traces pod shell (recorded >>= recordedNext) (work >>= next) (first ++ second) answer := by
  intro s log
  obtain ⟨made, same, carried, answered⟩ := begins s log
  rw [Session.bind_run, Session.bind_run, same, List.map_append]
  cases run : work s with
  | mk result t =>
    rw [run] at carried answered
    cases result with
    | error failure => exact ⟨made, rfl, carried.extend, nofun⟩
    | ok value =>
      -- All of the first programs have been run, so their records end where those of the
      -- second ones begin, and the outputs can be told apart.
      obtain ⟨whole, succeeded⟩ := carried.exists_ok_iff.mp ⟨value, rfl⟩
      obtain ⟨more, sameRest, carriedRest, answeredRest⟩ :=
        goesOn value _ (answered value rfl) t (log ++ made)
      refine ⟨made ++ more, ?_, carriedRest.after whole succeeded, fun result done => ?_⟩
      · rw [← List.append_assoc]
        exact sameRest
      · have lengths : first.length = made.length := by
          simpa using (congrArg List.length whole).symm
        rw [PlannedExec.outputs_append lengths]
        exact answeredRest result done

/-- After work that runs no programs, the log shows what comes next. -/
theorem from_beside {recordedNext : β → Session (σ × List ExecRecord) α}
    {next : β → Session σ α} {value : β} {work : Session σ β} {s t : σ}
    (goesOn : Traces pod shell (recordedNext value) (next value) first answer)
    (done : work s = (.ok value, t)) :
    ∃ made,
      (Session.beside work >>= recordedNext) (s, []) =
        (((work >>= next) s).1, (((work >>= next) s).2, made)) ∧
      CarriedOut (first.map (·.request pod shell)) made ((work >>= next) s).1 ∧
      ∀ result, ((work >>= next) s).1 = .ok result →
        answer result (PlannedExec.outputs first made) := by
  rw [Session.bind_run, Session.bind_run, Session.beside, done]
  exact goesOn t []

end Traces

/-! ### Commands -/

variable {client : ClusterClient σ} {devfile : Devfile} {pod shell : String}

theorem execOrFail_traces (client : ClusterClient σ) (step : PlannedExec) :
    let request := step.request pod shell
    Traces pod shell
      (client.recording.execOrFail request.pod request.container request.program)
      (client.execOrFail request.pod request.container request.program) [step]
      fun lines outputs => ∃ result : ExecResult, result.lines = lines ∧
        outputs = (step.output? result).toList := by
  intro request s log
  let ran := client.exec request.pod request.container request.program s
  refine ⟨[⟨request, ran.1⟩], ?_, ?_, fun lines done => ⟨ran.1, ?_, ?_⟩⟩
  · rw [execOrFail_run, execOrFail_run]
    rfl
  · rw [execOrFail_run]
    exact .single ⟨request, ran.1⟩
  · rw [execOrFail_run] at done
    exact ExecResult.lines_of_answer done
  · cases step <;> rfl

/-- Commands are run one by one, and what is reported are their outputs. -/
theorem runLeaves_traces (leaves : List Command) :
    Traces pod shell (runLeaves client.recording pod shell leaves)
      (runLeaves client pod shell leaves) (PlannedExec.ofLeaves leaves) (· = ·) := by
  induction leaves with
  | nil => exact .pure rfl
  | cons leaf rest ih =>
    unfold runLeaves
    cases isBody : leaf.body with
    | composite body =>
      have skipped : PlannedExec.ofLeaves (leaf :: rest) = PlannedExec.ofLeaves rest := by
        simp [PlannedExec.ofLeaves, Command.exec?, isBody]
      rw [skipped]
      exact ih
    | exec body =>
      have first : PlannedExec.ofLeaves (leaf :: rest) =
          [.command leaf.id body] ++ (PlannedExec.ofLeaves rest ++ []) := by
        simp [PlannedExec.ofLeaves, Command.exec?, isBody]
      rw [first]
      refine (execOrFail_traces client (.command leaf.id body)).bind ?_
      rintro _ _ ⟨result, rfl, rfl⟩
      refine ih.bind fun others reported same => ?_
      subst same
      exact .pure (by simp [PlannedExec.output?])

/-- The exec commands that a command stands for, or none if it cannot be taken apart. -/
def Devfile.leaves (devfile : Devfile) (command : Command) : List Command :=
  match devfile.flatten command with
  | .ok leaves => leaves
  | .error _ => []

theorem Devfile.Expandable.flatten_eq {command : Command}
    (expandable : devfile.Expandable command) :
    devfile.flatten command = .ok (devfile.leaves command) := by
  obtain ⟨leaves, isExpanded⟩ := expandable
  rw [Devfile.leaves, isExpanded]

/-- Executing a command is running the exec commands that it stands for. -/
theorem executeCommand_traces {command : Command} (expandable : devfile.Expandable command) :
    Traces pod shell (executeCommand client.recording devfile pod shell command)
      (executeCommand client devfile pod shell command)
      (PlannedExec.ofLeaves (devfile.leaves command)) (· = ·) := by
  unfold executeCommand
  rw [expandable.flatten_eq]
  exact runLeaves_traces _

theorem executeAll_traces {commands : List Command}
    (expandable : ∀ command ∈ commands, devfile.Expandable command) :
    Traces pod shell (executeAll client.recording devfile pod shell commands)
      (executeAll client devfile pod shell commands)
      (PlannedExec.ofLeaves (commands.flatMap devfile.leaves)) (· = ·) := by
  induction commands with
  | nil => exact .pure rfl
  | cons command rest ih =>
    have first : PlannedExec.ofLeaves ((command :: rest).flatMap devfile.leaves) =
        PlannedExec.ofLeaves (devfile.leaves command) ++
          (PlannedExec.ofLeaves (rest.flatMap devfile.leaves) ++ []) := by
      simp [PlannedExec.ofLeaves, List.filterMap_append]
    have others := ih fun other mem => expandable other (List.mem_cons_of_mem _ mem)
    rw [first]
    unfold executeAll
    refine (executeCommand_traces (expandable command List.mem_cons_self)).bind ?_
    rintro outputs _ rfl
    refine others.bind ?_
    rintro rest _ rfl
    exact .pure (by rw [List.append_nil])

/-- Starting the program takes two requests to the supervisor and reports nothing. -/
theorem startSupervised_traces (container : String) (program : Supervisor.Program) :
    Traces pod shell (startSupervised client.recording pod container program)
      (startSupervised client pod container program)
      [.control container Supervisor.stopAllCommand,
        .control container (Supervisor.startCommand program)] fun _ outputs => outputs = [] := by
  have stops : Traces pod shell _ _ _ _ :=
    execOrFail_traces client (.control container Supervisor.stopAllCommand)
  have starts : Traces pod shell _ _ _ _ :=
    execOrFail_traces client (.control container (Supervisor.startCommand program))
  refine stops.bind ?_
  rintro _ _ ⟨-, -, rfl⟩
  refine starts.bind ?_
  rintro _ _ ⟨-, -, rfl⟩
  exact .pure rfl

/-- If the container of the program is known, this is where it is started. -/
theorem startProgram_traces {desired : DesiredComponent} {debug : Option Command}
    (supervised : desired.supervisedContainer? (desired.program debug).2 =
      ((desired.program debug).2.bind Command.exec?).map ExecBody.component) :
    Traces pod shell (startProgram client.recording desired pod debug)
      (startProgram client desired pod debug)
      (PlannedExec.ofProgram (desired.program debug).1
        ((desired.program debug).2.bind Command.exec?)) fun _ outputs => outputs = [] := by
  unfold startProgram
  dsimp only
  rw [supervised]
  cases (desired.program debug).2.bind Command.exec? with
  | none => exact .pure rfl
  | some body =>
    refine (startSupervised_traces body.component _).bind ?_
    rintro _ _ rfl
    exact .pure rfl

/-! ### Plans -/

namespace Plans

variable {params : PushParameters} {plan : PushPlan} (plans : Plans devfile params plan)

include plans

theorem groupLeaves_eq (kind : GroupKind) :
    devfile.groupLeaves plan.desired.commands kind =
      .ok ((plan.desired.commands.get? kind).toList.flatMap devfile.leaves) := by
  unfold Devfile.groupLeaves
  cases chosen : plan.desired.commands.get? kind with
  | none => rfl
  | some command =>
    dsimp only
    rw [(plans.expandable_of_get? chosen).flatten_eq]
    simp

/-- The commands of the event stand for themselves. -/
theorem flatMap_leaves_postStart : plan.postStart.flatMap devfile.leaves = plan.postStart := by
  have each : ∀ command ∈ plan.postStart, devfile.leaves command = [command] := by
    intro command mem
    obtain ⟨body, isExec⟩ := Devfile.exists_exec_of_expandEvent plans.postStart mem
    rw [Devfile.leaves, Devfile.flatten_of_exec isExec]
  rw [List.flatMap_def, List.map_congr_left each, ← List.flatMap_def, List.flatMap_singleton']

theorem chosenProgram_eq :
    devfile.chosenProgram params plan.desired.commands =
      .ok (plan.desired.program plan.debug) := by
  unfold Devfile.chosenProgram
  cases asked : params.debug with
  | false =>
    rw [plans.program_run asked]
    rfl
  | true =>
    obtain ⟨debug, isProgram, resolved⟩ := plans.exists_program_debug asked
    rw [isProgram, resolved]
    rfl

/-- The programs are known from the commands before and after the start of the program. -/
theorem itinerary_eq (action : ReconcileAction) :
    devfile.itinerary params action = .ok
      (PlannedExec.ofLeaves ((plan.before action).flatMap devfile.leaves) ++
        (PlannedExec.ofProgram (plan.desired.program plan.debug).1
            ((plan.desired.program plan.debug).2.bind Command.exec?) ++
          (PlannedExec.ofLeaves ((plan.after action).flatMap devfile.leaves) ++ []))) := by
  unfold Devfile.itinerary
  rw [plans.rendered]
  change (Except.mapError _ (devfile.groupLeaves plan.desired.commands .init) >>= _) = _
  rw [plans.groupLeaves_eq]
  change (Except.mapError _ (devfile.groupLeaves plan.desired.commands .build) >>= _) = _
  rw [plans.groupLeaves_eq]
  change (Except.mapError _ (devfile.chosenProgram params plan.desired.commands) >>= _) = _
  rw [plans.chosenProgram_eq, plans.postStart]
  refine congrArg Except.ok ?_
  by_cases isCreated : action = .created
  · simp [isCreated, PushPlan.before, PushPlan.after, PlannedExec.ofLeaves,
      plans.flatMap_leaves_postStart]
  · simp [isCreated, PushPlan.before, PushPlan.after, PlannedExec.ofLeaves]

end Plans

/-! ### Pushes -/

/-- Carrying out a plan once the component is reconciled. -/
theorem run_traces {params : PushParameters} {plan : PushPlan} {timeout : Duration} {s t : σ}
    {outcome : ReconcileOutcome} {steps : List PlannedExec}
    (planned : devfile.pushPlan params = .ok plan)
    (isItinerary : devfile.itinerary params outcome.action = .ok steps)
    (reconciled : reconcile client timeout plan.desired s = (.ok outcome, t)) (shell : String) :
    ∃ made,
      plan.run client.recording timeout devfile shell (s, []) =
        ((plan.run client timeout devfile shell s).1,
          ((plan.run client timeout devfile shell s).2, made)) ∧
      CarriedOut (steps.map (·.request outcome.pod shell)) made
        (plan.run client timeout devfile shell s).1 ∧
      ∀ done, (plan.run client timeout devfile shell s).1 = .ok done →
        done.executed = PlannedExec.outputs steps made := by
  have plans := plans_of_pushPlan planned
  have isSteps := Except.ok.inj ((plans.itinerary_eq outcome.action).symm.trans isItinerary)
  unfold PushPlan.run
  rw [reconcile_recording, ← isSteps]
  refine Traces.from_beside (?rest : Traces outcome.pod shell _ _ _
    fun (done : PushOutcome) outputs => done.executed = outputs) reconciled
  refine (executeAll_traces fun _ mem => plans.expandable_before mem).bind ?_
  rintro before _ rfl
  refine (startProgram_traces plans.supervisedContainer?_program).bind ?_
  rintro started _ rfl
  refine (executeAll_traces fun _ mem => plans.expandable_after mem).bind ?_
  rintro after _ rfl
  exact .pure (by rw [List.append_nil, List.nil_append])

/-- A cluster in which the supervisor does not get the run program to start. -/
def MemoryCluster.unstartable : MemoryCluster :=
  let cluster := MemoryCluster.empty (some Pod.runningPhase)
  let refusal := OrderedMap.empty.insert (" ".intercalate (Supervisor.startCommand .run)) ⟨[], 1⟩
  { cluster with behaviour := { cluster.behaviour with execResponses := refusal } }

end DevfilePush
