import DevfilePush.Cluster.InMemory
import DevfilePush.Proofs.Session
import DevfilePush.Push.Push

/-!
Which programs a push runs.

Once the component is reconciled, the programs of a push are known: those of the commands
before the start of the program, those that start it, and those of the commands after it
(`PushPlan.calls`). A push runs them in this order until one fails (`run_calls`). All that
has to be known of the client is that it records the programs that it runs.
-/

namespace DevfilePush

open Session (Ensures Follows)

/-- The call that runs a program in a container of a pod. -/
def programCall (pod container : String) (program : List String) : Call :=
  ⟨.exec, pod ++ "/" ++ container, program⟩

/-- The client adds the programs that it runs to a log, and nothing else does. -/
def ClusterClient.Logs {σ : Type} (client : ClusterClient σ) (log : σ → List Call) : Prop :=
  ∀ pod container program,
    Follows log (client.execOrFail pod container program) [programCall pod container program]
      fun _ => True

namespace MemoryCluster

/-- The call that runs an exec command. -/
def execCall (pod shell : String) (body : ExecBody) : Call :=
  ⟨.exec, pod ++ "/" ++ body.component, body.invocation shell⟩

/-- The calls that run exec commands one after another. -/
def leafCalls (pod shell : String) (leaves : List Command) : List Call :=
  (leaves.filterMap Command.exec?).map (execCall pod shell)

end MemoryCluster

open MemoryCluster (execCall leafCalls)

/-- The calls that run a command to its end. -/
def Devfile.commandCalls (devfile : Devfile) (pod shell : String) (command : Command) :
    List Call :=
  match devfile.flatten command with
  | .ok leaves => leafCalls pod shell leaves
  | .error _ => []

/-- The calls that start the run or debug program. -/
def DesiredComponent.startCalls (desired : DesiredComponent) (pod : String)
    (debug : Option Command) : List Call :=
  let (program, command) := desired.program debug
  match desired.supervisedContainer? command with
  | none => []
  | some container =>
    [programCall pod container Supervisor.stopAllCommand,
      programCall pod container (Supervisor.startCommand program)]

namespace PushPlan

/-- The calls up to the start of the program. -/
def earlyCalls (plan : PushPlan) (devfile : Devfile) (shell : String)
    (outcome : ReconcileOutcome) : List Call :=
  (plan.before outcome.action).flatMap (devfile.commandCalls outcome.pod shell) ++
    plan.desired.startCalls outcome.pod plan.debug

/-- The calls after the start of the program. -/
def lateCalls (plan : PushPlan) (devfile : Devfile) (shell : String)
    (outcome : ReconcileOutcome) : List Call :=
  (plan.after outcome.action).flatMap (devfile.commandCalls outcome.pod shell)

/-- The calls that a push makes after it has reconciled the component, if none fails. -/
def calls (plan : PushPlan) (devfile : Devfile) (shell : String) (outcome : ReconcileOutcome) :
    List Call :=
  plan.earlyCalls devfile shell outcome ++ plan.lateCalls devfile shell outcome

end PushPlan

variable {σ : Type} {client : ClusterClient σ} {log : σ → List Call} (logs : client.Logs log)
  {devfile : Devfile} {pod shell : String}

include logs

/-! ### Commands -/

/-- Exec commands are run one after another, in their containers. -/
theorem runLeaves_follows (leaves : List Command) :
    Follows log (runLeaves client pod shell leaves) (leafCalls pod shell leaves) fun _ => True := by
  induction leaves with
  | nil => exact .pure trivial
  | cons leaf rest ih =>
    unfold runLeaves
    cases isBody : leaf.body with
    | composite body =>
      have skipped : leafCalls pod shell (leaf :: rest) = leafCalls pod shell rest := by
        simp [leafCalls, Command.exec?, isBody]
      rw [skipped]
      exact ih
    | exec body =>
      have first : leafCalls pod shell (leaf :: rest) =
          [programCall pod body.component (body.invocation shell)] ++
            (leafCalls pod shell rest ++ []) := by
        simp [leafCalls, Command.exec?, isBody, execCall, programCall]
      rw [first]
      refine (logs pod body.component _).bind fun lines _ => ?_
      exact ih.bind fun outputs _ => .pure trivial

/-- A command is expanded first, and an expansion that fails runs nothing. -/
theorem executeCommand_follows (command : Command) :
    Follows log (executeCommand client devfile pod shell command)
      (devfile.commandCalls pod shell command) fun _ => True := by
  unfold executeCommand Devfile.commandCalls
  cases devfile.flatten command with
  | error cause => exact .throw
  | ok leaves => exact runLeaves_follows logs leaves

theorem executeAll_follows (commands : List Command) :
    Follows log (executeAll client devfile pod shell commands)
      (commands.flatMap (devfile.commandCalls pod shell)) fun _ => True := by
  induction commands with
  | nil => exact .pure trivial
  | cons command rest ih =>
    unfold executeAll
    rw [List.flatMap_cons, ← List.append_nil (List.flatMap _ rest)]
    refine (executeCommand_follows logs command).bind fun outputs _ => ?_
    exact ih.bind fun others _ => .pure trivial

/-- Everything that runs is stopped before the program is started. -/
theorem startSupervised_follows (container : String) (program : Supervisor.Program) :
    Follows log (startSupervised client pod container program)
      [programCall pod container Supervisor.stopAllCommand,
        programCall pod container (Supervisor.startCommand program)] fun _ => True := by
  unfold startSupervised
  refine (logs pod container Supervisor.stopAllCommand).bind fun _ _ => ?_
  exact (logs pod container _).bind fun _ _ => .pure trivial

/-- If there is no container for the program, nothing is called. -/
theorem startProgram_follows (desired : DesiredComponent) (debug : Option Command) :
    Follows log (startProgram client desired pod debug) (desired.startCalls pod debug)
      fun _ => True := by
  unfold startProgram DesiredComponent.startCalls
  dsimp only
  cases desired.supervisedContainer? (desired.program debug).2 with
  | none => exact .pure trivial
  | some container => exact (startSupervised_follows logs container _).bind fun _ _ => .pure trivial

/-! ### Pushes -/

/-- After reconciling, which runs no programs, a push runs those that are planned. -/
theorem run_calls {plan : PushPlan} {timeout : Duration}
    (quiet : Follows log (reconcile client timeout plan.desired) [] fun _ => True)
    (entries : List Call) :
    Ensures (fun s => log s = entries) (plan.run client timeout devfile shell)
      (fun outcome s => log s = entries ++ plan.calls devfile shell outcome.reconcile)
      fun _ s => ∃ outcome made, made <+: plan.calls devfile shell outcome ∧
        log s = entries ++ made := by
  have reconciled : Ensures (fun s => log s = entries) (reconcile client timeout plan.desired)
      (fun _ s => log s = entries)
      fun _ s => ∃ outcome made, made <+: plan.calls devfile shell outcome ∧
        log s = entries ++ made := by
    refine (quiet entries).weaken (fun _ logged => logged) ?_ ?_
    · rintro outcome s ⟨-, logged⟩
      rw [logged, List.append_nil]
    · rintro failure s ⟨made, isPrefix, logged⟩
      rw [List.prefix_nil.mp isPrefix] at logged
      exact ⟨⟨.created, ""⟩, [], List.nil_prefix, logged⟩
  refine reconciled.bind fun outcome => ?_
  have isCalls : plan.calls devfile shell outcome =
      (plan.before outcome.action).flatMap (devfile.commandCalls outcome.pod shell) ++
        (plan.desired.startCalls outcome.pod plan.debug ++
          (plan.lateCalls devfile shell outcome ++ [])) := by
    simp [PushPlan.calls, PushPlan.earlyCalls]
  refine Ensures.weaken ((?follows : Follows log _ (plan.calls devfile shell outcome)
    fun done => done.reconcile = outcome) entries) (fun _ logged => logged) ?_ ?_
  case follows =>
    rw [isCalls]
    refine (executeAll_follows logs _).bind fun before _ => ?_
    refine (startProgram_follows logs _ _).bind fun started _ => ?_
    refine (executeAll_follows logs _).bind fun after _ => ?_
    exact .pure rfl
  · rintro done s ⟨rfl, logged⟩
    exact logged
  · rintro failure s ⟨made, isPrefix, logged⟩
    exact ⟨outcome, made, isPrefix, logged⟩

end DevfilePush
