import DevfilePush.Cluster.Client
import DevfilePush.Command.Expansion
import DevfilePush.Synthesis.PreStart

/-!
Running commands in a pod.

Commands run to their end through a shell, one after another, and the first failure
stops them. Programs under development are handed to the supervisor instead.
-/

namespace DevfilePush

/-- The output of a command. -/
structure ExecOutput where
  commandId : String
  container : String
  lines : List String
  deriving DecidableEq, Repr

def ExecOutput.toJson (output : ExecOutput) : Json :=
  .object
    [("commandId", .string output.commandId),
      ("container", .string output.container),
      ("lines", Json.ofStrings output.lines)]

/-- The line that an exec command has the shell run. -/
def ExecBody.invocationLine (body : ExecBody) : String :=
  shellLine body.lineWithEnv body.workingDir

/-- The program that runs an exec command. -/
def ExecBody.invocation (body : ExecBody) (shell : String) : List String :=
  shellProgram shell body.invocationLine

/-- Runs exec commands one after another. -/
def runLeaves {σ : Type} (client : ClusterClient σ) (pod shell : String) :
    List Command → Session σ (List ExecOutput)
  | [] => return []
  | leaf :: rest => do
    match leaf.body with
    | .composite _ => runLeaves client pod shell rest
    | .exec body =>
      let lines ← client.execOrFail pod body.component (body.invocation shell)
      return ⟨leaf.id, body.component, lines⟩ :: (← runLeaves client pod shell rest)

/-- Runs a command to its end. -/
def executeCommand {σ : Type} (client : ClusterClient σ) (devfile : Devfile) (pod shell : String)
    (command : Command) : Session σ (List ExecOutput) := do
  match devfile.flatten command with
  | .error error => throw (.command error)
  | .ok leaves => runLeaves client pod shell leaves

/-- Runs several commands to their ends. -/
def executeAll {σ : Type} (client : ClusterClient σ) (devfile : Devfile) (pod shell : String) :
    List Command → Session σ (List ExecOutput)
  | [] => return []
  | command :: rest => do
    let outputs ← executeCommand client devfile pod shell command
    return outputs ++ (← executeAll client devfile pod shell rest)

/-- Has the supervisor of a container run `program` and nothing else. -/
def startSupervised {σ : Type} (client : ClusterClient σ) (pod container : String)
    (program : Supervisor.Program) : Session σ Unit := do
  let _ ← client.execOrFail pod container Supervisor.stopAllCommand
  let _ ← client.execOrFail pod container (Supervisor.startCommand program)

end DevfilePush
