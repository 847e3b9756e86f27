import DevfilePush.Cluster.InMemory
import DevfilePush.Proofs.Session

/-!
Requests to a client.

A request is an operation of a client with all that is sent along, as data. Clients of every
kind are asked for it in the same way (`ClusterClient.ask`), so what holds of all operations can
be said at once.
-/

namespace DevfilePush

open Kubernetes (Claim Deployment Pod Service)

/-- What a client can be asked for. -/
inductive ClientRequest where
  | listDeployments (selector : String)
  | createDeployment (deployment : Deployment)
  | replaceDeployment (deployment : Deployment)
  | deleteDeployment (name : String)
  | getService (name : String)
  | createService (service : Service)
  | replaceService (service : Service)
  | deleteService (name : String)
  | getClaim (name : String)
  | createClaim (claim : Claim)
  | listPods (selector : String)
  | deletePod (name : String)
  | watchPods (selector : String)
  | exec (pod container : String) (program : List String)
  deriving DecidableEq, Repr

namespace ClientRequest

/-- What the request is answered with, unless it fails. -/
def Answer : ClientRequest → Type
  | listDeployments _ => List Deployment
  | createDeployment _ => Deployment
  | replaceDeployment _ => Deployment
  | deleteDeployment _ => Unit
  | getService _ => Option Service
  | createService _ => Service
  | replaceService _ => Service
  | deleteService _ => Unit
  | getClaim _ => Option Claim
  | createClaim _ => Claim
  | listPods _ => List Pod
  | deletePod _ => Unit
  | watchPods _ => PodWatch
  | exec .. => List String

/-- What a cluster in memory records of the request. -/
def call : ClientRequest → Call
  | listDeployments selector => ⟨.listDeployments, selector, []⟩
  | createDeployment deployment => ⟨.createDeployment, deployment.metadata.nameOrEmpty, []⟩
  | replaceDeployment deployment => ⟨.replaceDeployment, deployment.metadata.nameOrEmpty, []⟩
  | deleteDeployment name => ⟨.deleteDeployment, name, []⟩
  | getService name => ⟨.getService, name, []⟩
  | createService service => ⟨.createService, service.metadata.nameOrEmpty, []⟩
  | replaceService service => ⟨.replaceService, service.metadata.nameOrEmpty, []⟩
  | deleteService name => ⟨.deleteService, name, []⟩
  | getClaim name => ⟨.getClaim, name, []⟩
  | createClaim claim => ⟨.createClaim, claim.metadata.nameOrEmpty, []⟩
  | listPods selector => ⟨.listPods, selector, []⟩
  | deletePod name => ⟨.deletePod, name, []⟩
  | watchPods selector => ⟨.watchPods, selector, []⟩
  | exec pod container program => ⟨.exec, pod ++ "/" ++ container, program⟩

end ClientRequest

/-- Asks a client for what is requested. -/
def ClusterClient.ask {σ : Type} (client : ClusterClient σ) :
    (request : ClientRequest) → Session σ request.Answer
  | .listDeployments selector => client.listDeployments selector
  | .createDeployment deployment => client.createDeployment deployment
  | .replaceDeployment deployment => client.replaceDeployment deployment
  | .deleteDeployment name => client.deleteDeployment name
  | .getService name => client.getService name
  | .createService service => client.createService service
  | .replaceService service => client.replaceService service
  | .deleteService name => client.deleteService name
  | .getClaim name => client.getClaim name
  | .createClaim claim => client.createClaim claim
  | .listPods selector => client.listPods selector
  | .deletePod name => client.deletePod name
  | .watchPods selector => client.watchPods selector
  | .exec pod container program => client.execOrFail pod container program

/-! ### Programs that have to succeed -/

/-- What a program comes to if it has to succeed. -/
def ExecResult.answer (result : ExecResult) : Except Failure (List String) :=
  match result.failure with
  | some failure => .error failure
  | none => .ok result.lines

theorem ExecResult.lines_of_answer {result : ExecResult} {lines : List String}
    (answered : result.answer = .ok lines) : result.lines = lines := by
  unfold ExecResult.answer at answered
  split at answered
  · cases answered
  · exact Except.ok.inj answered

theorem execOrFail_run {σ : Type} (client : ClusterClient σ) (pod container : String)
    (program : List String) (s : σ) :
    client.execOrFail pod container program s =
      ((client.exec pod container program s).1.answer,
        (client.exec pod container program s).2) := by
  rw [ClusterClient.execOrFail, Session.bind_run, Session.liftM_run, ExecResult.answer]
  dsimp only
  cases (client.exec pod container program s).1.failure <;> rfl

end DevfilePush
