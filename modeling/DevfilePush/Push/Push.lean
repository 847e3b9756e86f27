import DevfilePush.Push.Execution
import DevfilePush.Push.Reconcile

/-!
A push: reconcile the component and run its commands.

The init and postStart commands run when the component was created, the build command
always; the run or debug program is started by the supervisor.
-/

namespace DevfilePush

/-- What a push has done. -/
structure PushOutcome where
  component : String
  reconcile : ReconcileOutcome
  /-- The outputs of the init, build and postStart commands, in the order in which they
  ran. -/
  executed : List ExecOutput
  /-- The program that was started. -/
  started : Option Supervisor.Program
  deriving DecidableEq, Repr

def PushOutcome.toJson (outcome : PushOutcome) : Json :=
  .object
    [("component", .string outcome.component),
      ("reconcile", outcome.reconcile.toJson),
      ("executed", .array (outcome.executed.map ExecOutput.toJson)),
      ("started", Json.ofString? (outcome.started.map Supervisor.Program.name))]

/-- The program to start and the command behind it. -/
def DesiredComponent.program (desired : DesiredComponent) (debug : Option Command) :
    Supervisor.Program × Option Command :=
  match debug with
  | some command => (.debug, some command)
  | none => (.run, desired.commands.get? .run)

/-- The container in which the supervisor can run a command. -/
def DesiredComponent.supervisedContainer? (desired : DesiredComponent)
    (command : Option Command) : Option String :=
  match command.bind Command.exec? with
  | none => none
  | some body =>
    if desired.containers.any fun container =>
        container.name = body.component && container.isWrapped then
      some body.component
    else none

/-- Starts the run or debug program. -/
def startProgram {σ : Type} (client : ClusterClient σ) (desired : DesiredComponent) (pod : String)
    (debug : Option Command) : Session σ (Option Supervisor.Program) := do
  let (program, command) := desired.program debug
  match desired.supervisedContainer? command with
  | none => return none
  | some container =>
    startSupervised client pod container program
    return some program

/-- What a push goes by, computed from the devfile before the cluster is touched. -/
structure PushPlan where
  desired : DesiredComponent
  /-- The debug command, if it is to be started. -/
  debug : Option Command
  /-- The exec commands of the postStart event. -/
  postStart : List Command
  deriving DecidableEq

/-- The plan of a push. -/
def Devfile.pushPlan (devfile : Devfile) (params : PushParameters) : Except Failure PushPlan := do
  let desired ← render devfile params
  let debug ←
    if params.debug then
      (devfile.resolveCommand .debug params.overrides.debug).mapError Failure.command
    else pure none
  let postStart ← (devfile.expandEvent .postStart).mapError Failure.synthesis
  return ⟨desired, debug, postStart⟩

/-- The commands that run before the program is started. -/
def PushPlan.before (plan : PushPlan) (action : ReconcileAction) : List Command :=
  let init := if action = .created then plan.desired.commands.get? .init else none
  init.toList ++ (plan.desired.commands.get? .build).toList

/-- The commands that run after the program has been started. -/
def PushPlan.after (plan : PushPlan) (action : ReconcileAction) : List Command :=
  if action = .created then plan.postStart else []

/-- Carries out a plan. -/
def PushPlan.run {σ : Type} (plan : PushPlan) (client : ClusterClient σ) (timeout : Duration)
    (devfile : Devfile) (shell : String) : Session σ PushOutcome := do
  let outcome ← reconcile client timeout plan.desired
  let before ← executeAll client devfile outcome.pod shell (plan.before outcome.action)
  let started ← startProgram client plan.desired outcome.pod plan.debug
  let after ← executeAll client devfile outcome.pod shell (plan.after outcome.action)
  return ⟨plan.desired.name, outcome, before ++ after, started⟩

/-- Pushes a devfile. -/
def push {σ : Type} (client : ClusterClient σ) (timeout : Duration) (devfile : Devfile)
    (params : PushParameters) : Session σ PushOutcome := do
  match devfile.pushPlan params with
  | .error failure => throw failure
  | .ok plan => plan.run client timeout devfile params.settings.shell

end DevfilePush
