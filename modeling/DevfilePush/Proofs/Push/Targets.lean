import DevfilePush.Proofs.Push.Execution
import DevfilePush.Proofs.Push.Reconcile
import DevfilePush.Proofs.Push.Schedule
import DevfilePush.Proofs.Synthesis.Containers

/-!
Where the programs of a push are run.

The commands of a push have passed their checks, and the program is started only in a
container that holds the supervisor, so all of this happens in containers that the push has
rendered. The commands of the postStart event are not checked against the containers: they
are run wherever they ask to be run (`push_targets`).
-/

namespace DevfilePush

open Kubernetes (Pod)
open MemoryCluster (leafCalls)
open Session (Ensures Follows)

/-- The program is run in one of the given containers of a pod. -/
def Call.RunsIn (call : Call) (pod : String) (containers : List String) : Prop :=
  ∃ container ∈ containers, call.target = pod ++ "/" ++ container

variable {devfile : Devfile} {params : PushParameters} {plan : PushPlan} {pod shell : String}

/-! ### Planned calls -/

/-- What begins two lists in a row begins the first one and goes on into the second. -/
theorem exists_split_of_prefix {made early late : List Call} (isPrefix : made <+: early ++ late) :
    ∃ first second, made = first ++ second ∧ first <+: early ∧ second <+: late := by
  obtain ⟨rest, same⟩ := isPrefix
  rcases List.append_eq_append_iff.mp same with ⟨more, isEarly, -⟩ | ⟨more, isMade, isLate⟩
  · exact ⟨made, [], (List.append_nil _).symm, ⟨more, isEarly.symm⟩, List.nil_prefix⟩
  · exact ⟨early, more, isMade, List.prefix_rfl, ⟨rest, isLate.symm⟩⟩

theorem runsIn_of_mem_leafCalls {leaves : List Command} {containers : List String}
    (inside : ∀ leaf ∈ leaves, ∀ body, leaf.exec? = some body → body.component ∈ containers)
    {call : Call} (mem : call ∈ leafCalls pod shell leaves) : call.RunsIn pod containers := by
  obtain ⟨body, isBody, rfl⟩ := List.mem_map.mp mem
  obtain ⟨leaf, leafMem, isExec⟩ := List.mem_filterMap.mp isBody
  exact ⟨body.component, inside leaf leafMem body isExec, rfl⟩

/-- A command that passes its checks is run in containers of the devfile. -/
theorem runsIn_of_validateCommand {command : Command}
    (valid : devfile.validateCommand command = .ok ()) {call : Call}
    (mem : call ∈ devfile.commandCalls pod shell command) :
    call.RunsIn pod (devfile.containers.map (·.1)) := by
  obtain ⟨leaves, isExpanded, fit⟩ := Devfile.flatten_of_validateCommand valid
  rw [Devfile.commandCalls, isExpanded] at mem
  have inside : ∀ leaf ∈ leaves, ∀ body, leaf.exec? = some body →
      body.component ∈ devfile.containers.map (·.1) :=
    fun leaf leafMem body => component_mem_of_isLeaf (fit leaf leafMem)
  exact runsIn_of_mem_leafCalls inside mem

theorem mem_of_supervisedContainer? {desired : DesiredComponent} {command : Option Command}
    {container : String} (supervised : desired.supervisedContainer? command = some container) :
    container ∈ containerNames desired.containers := by
  unfold DesiredComponent.supervisedContainer? at supervised
  split at supervised
  · cases supervised
  · split at supervised
    · rename_i body isBody found
      cases supervised
      obtain ⟨holder, holderMem, holds⟩ := List.any_eq_true.mp found
      obtain ⟨isNamed, -⟩ := Bool.and_eq_true_iff.mp holds
      exact List.mem_map.mpr ⟨holder, holderMem, of_decide_eq_true isNamed⟩
    · cases supervised

/-- The program is started in one of the containers. -/
theorem runsIn_of_mem_startCalls {desired : DesiredComponent} {debug : Option Command}
    {call : Call} (mem : call ∈ desired.startCalls pod debug) :
    call.RunsIn pod (containerNames desired.containers) := by
  unfold DesiredComponent.startCalls at mem
  dsimp only at mem
  cases supervised : desired.supervisedContainer? (desired.program debug).2 with
  | none =>
    rw [supervised] at mem
    cases mem
  | some container =>
    have isContainer := mem_of_supervisedContainer? supervised
    rw [supervised] at mem
    simp only [List.mem_cons, List.not_mem_nil, or_false] at mem
    rcases mem with rfl | rfl
    · exact ⟨container, isContainer, rfl⟩
    · exact ⟨container, isContainer, rfl⟩

/-- Exec commands stand for themselves, one after another. -/
theorem flatMap_commandCalls {commands : List Command}
    (exec : ∀ command ∈ commands, ∃ body, command.body = .exec body) :
    commands.flatMap (devfile.commandCalls pod shell) = leafCalls pod shell commands := by
  induction commands with
  | nil => rfl
  | cons command rest ih =>
    obtain ⟨body, isExec⟩ := exec command List.mem_cons_self
    rw [List.flatMap_cons, ih fun other mem => exec other (List.mem_cons_of_mem _ mem),
      Devfile.commandCalls, Devfile.flatten_of_exec isExec]
    simp [leafCalls, Command.exec?, isExec]

namespace Plans

variable (plans : Plans devfile params plan) {outcome : ReconcileOutcome}

include plans

theorem runsIn_of_mem_earlyCalls {call : Call}
    (mem : call ∈ plan.earlyCalls devfile shell outcome) :
    call.RunsIn outcome.pod (containerNames plan.desired.containers) := by
  rcases List.mem_append.mp mem with mem | mem
  · obtain ⟨command, commandMem, mem⟩ := List.mem_flatMap.mp mem
    rw [containerNames_of_render plans.rendered]
    exact runsIn_of_validateCommand (plans.validateCommand_of_mem_before commandMem) mem
  · exact runsIn_of_mem_startCalls mem

theorem lateCalls_eq :
    plan.lateCalls devfile shell outcome =
      if outcome.action = .created then leafCalls outcome.pod shell plan.postStart else [] := by
  unfold PushPlan.lateCalls PushPlan.after
  split
  · exact flatMap_commandCalls fun command mem =>
      Devfile.exists_exec_of_expandEvent plans.postStart mem
  · rfl

theorem prefix_leafCalls_of_late {calls : List Call}
    (isLate : calls <+: plan.lateCalls devfile shell outcome) :
    calls <+: leafCalls outcome.pod shell plan.postStart := by
  rw [plans.lateCalls_eq] at isLate
  split at isLate
  · exact isLate
  · exact isLate.trans List.nil_prefix

end Plans

namespace MemoryCluster

variable {timeout : Duration}

/-! ### Calls that are made -/

theorem client_logs : client.Logs execCalls := by
  intro pod container program entries
  refine execOrFail_ensures ?_ ?_
  · rintro cluster failure logged -
    exact ⟨_, List.prefix_rfl, by rw [execCalls_record rfl, logged]; rfl⟩
  · rintro cluster lines logged -
    exact ⟨trivial, by rw [execCalls_record rfl, logged]; rfl⟩

/-- Reconciling runs no programs. -/
theorem reconcile_follows {desired : DesiredComponent} (rendered : desired.IsRendered) :
    Follows execCalls (reconcile client timeout desired) [] fun _ => True := by
  rintro entries cluster rfl
  have advances : Advances cluster.setting timeout desired cluster.objects (· = cluster.objects)
      (reconcile client timeout desired) _ := reconcile_advances rendered
  refine (advances.weaken (fun _ holds => holds) ?_ ?_) cluster ⟨rfl, rfl⟩
  · rintro outcome after ⟨same, -⟩
    refine ⟨trivial, ?_⟩
    rw [List.append_nil]
    exact congrArg Setting.execCalls same
  · rintro failure after ⟨same, -⟩
    refine ⟨[], List.nil_prefix, ?_⟩
    rw [List.append_nil]
    exact congrArg Setting.execCalls same

/-- The programs of a push run in containers that it has rendered, but for the commands of the
postStart event, which run last and wherever they ask to be run. -/
theorem push_targets (timeout : Duration) (devfile : Devfile) (params : PushParameters)
    (cluster : MemoryCluster) :
    let run := push client timeout devfile params cluster
    (∀ failure, devfile.pushPlan params = .error failure → run.2 = cluster) ∧
      ∀ plan, devfile.pushPlan params = .ok plan →
        ∃ pod early late, run.2.execCalls = cluster.execCalls ++ (early ++ late) ∧
          (∀ call ∈ early, call.RunsIn pod (containerNames plan.desired.containers)) ∧
          late <+: leafCalls pod params.settings.shell plan.postStart ∧
          ∀ outcome, run.1 = .ok outcome → outcome.reconcile.action = .created →
            late = leafCalls pod params.settings.shell plan.postStart := by
  intro run
  constructor
  · intro failure faulty
    simp only [run, push, faulty]
    rfl
  · intro plan planned
    have plans := plans_of_pushPlan planned
    have isRun : run = plan.run client timeout devfile params.settings.shell cluster := by
      simp only [run, push, planned]
    rw [isRun]
    have made : Ensures (fun after => after.execCalls = cluster.execCalls)
        (plan.run client timeout devfile params.settings.shell) _ _ :=
      run_calls client_logs (reconcile_follows plans.isRendered) cluster.execCalls
    cases result : plan.run client timeout devfile params.settings.shell cluster with
    | mk ended after =>
      cases ended with
      | ok outcome =>
        have all := made.ok rfl result
        refine ⟨outcome.reconcile.pod, _, _, all, fun _ => plans.runsIn_of_mem_earlyCalls,
          plans.prefix_leafCalls_of_late List.prefix_rfl, ?_⟩
        rintro _ ⟨⟩ isCreated
        rw [plans.lateCalls_eq, if_pos isCreated]
      | error failure =>
        obtain ⟨outcome, calls, isPrefix, recorded⟩ := made.error rfl result
        obtain ⟨early, late, rfl, isEarly, isLate⟩ := exists_split_of_prefix isPrefix
        exact ⟨outcome.pod, early, late, recorded,
          fun call mem => plans.runsIn_of_mem_earlyCalls (isEarly.subset mem),
          plans.prefix_leafCalls_of_late isLate, nofun⟩

/-! ### A postStart command -/

/-- The sample component with a command that greets from `component` once it is started. -/
def greeter (component : String) : Devfile :=
  { Devfile.sample [] with
    commands := (Devfile.sample []).commands ++
      [⟨"greet", .exec { component, commandLine := "echo hello" }⟩]
    events := { postStart := ["greet"] } }

/-- The empty devfile cannot be pushed, and nothing is run for it. A component that greets
from its own container does so at the end. -/
theorem push_targets_sample :
    (push client ⟨0⟩ {} {} (empty none)).2 = empty none ∧
      ∃ plan pod early, (greeter "main").pushPlan {} = .ok plan ∧
        (push client ⟨0⟩ (greeter "main") {} (empty (some Pod.runningPhase))).2.execCalls =
          early ++ leafCalls pod defaultShell plan.postStart ∧
        ∀ call ∈ early, call.RunsIn pod (containerNames plan.desired.containers) := by
  constructor
  · have faulty : (Devfile.pushPlan {} {}).toOption.isNone = true := by decide +kernel
    cases planned : Devfile.pushPlan {} {} with
    | ok plan =>
      rw [planned] at faulty
      cases faulty
    | error failure => exact (push_targets ⟨0⟩ {} {} (empty none)).1 failure planned
  · have isPlanned : ((greeter "main").pushPlan {}).toOption.any (fun _ => true) = true := by
      decide +kernel
    obtain ⟨plan, planned, -⟩ := Checked.exists_of_any_toOption isPlanned
    have creates : (push client ⟨0⟩ (greeter "main") {}
        (empty (some Pod.runningPhase))).1.toOption.any
          (fun outcome => outcome.reconcile.action = .created) = true := by decide +kernel
    obtain ⟨outcome, succeeded, isCreated⟩ := Checked.exists_of_any_toOption creates
    obtain ⟨pod, early, late, all, inside, -, complete⟩ :=
      (push_targets ⟨0⟩ (greeter "main") {} (empty (some Pod.runningPhase))).2 plan planned
    rw [complete outcome succeeded (of_decide_eq_true isCreated)] at all
    exact ⟨plan, pod, early, planned, all, inside⟩

/-- A component greets from a container that does not exist. -/
theorem not_runsIn_of_postStart :
    ¬ ∀ (timeout : Duration) (devfile : Devfile) (params : PushParameters)
      (cluster : MemoryCluster) (plan : PushPlan) (calls : List Call),
      devfile.pushPlan params = .ok plan →
      (push client timeout devfile params cluster).2.execCalls = cluster.execCalls ++ calls →
      ∀ call ∈ calls, ∃ pod, call.RunsIn pod (containerNames plan.desired.containers) := by
  intro claim
  let cluster := empty (some Pod.runningPhase)
  have isPlanned : ((greeter "ghost").pushPlan {}).toOption.any (fun plan =>
      containerNames plan.desired.containers = ["main"]) = true := by decide +kernel
  obtain ⟨plan, planned, names⟩ := Checked.exists_of_any_toOption isPlanned
  have greets : programCall "web-1" "ghost" (shellProgram defaultShell "echo hello") ∈
      (push client ⟨0⟩ (greeter "ghost") {} cluster).2.execCalls := by decide +kernel
  have all : (push client ⟨0⟩ (greeter "ghost") {} cluster).2.execCalls =
      cluster.execCalls ++ (push client ⟨0⟩ (greeter "ghost") {} cluster).2.execCalls :=
    (List.nil_append _).symm
  obtain ⟨pod, container, isContainer, same⟩ :=
    claim ⟨0⟩ (greeter "ghost") {} cluster plan _ planned all _ greets
  rw [of_decide_eq_true names, List.mem_singleton] at isContainer
  rw [isContainer] at same
  -- One name ends with "t" and the other one with "n".
  have ends := congrArg (fun target => target.toList.getLast?) same
  simp [programCall] at ends

end MemoryCluster

end DevfilePush
