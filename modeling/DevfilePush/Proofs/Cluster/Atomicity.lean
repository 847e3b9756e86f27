import DevfilePush.Proofs.Cluster.Operations
import DevfilePush.Proofs.Cluster.Request

/-!
Failed operations.

Nothing undoes what an operation has written before it fails, but there is never anything to be
undone: whatever is asked of a cluster in memory, and however it fails, the objects stay as they
are (`ask_atomic`). The operation itself is recorded once in any case.
-/

namespace DevfilePush.MemoryCluster

variable {α : Type} {call : Call} {work : Session MemoryCluster α}

/-- The work is recorded once as `call`, however it ends. If it fails, then all objects, the
watches and what versions, addresses and pods are counted by are as they were. -/
structure Atomic (call : Call) (work : Session MemoryCluster α) : Prop where
  recorded : ∀ cluster, (work cluster).2.history = cluster.history ++ [call]
  unchanged : ∀ cluster failure, (work cluster).1 = .error failure →
    (work cluster).2.objects = cluster.objects

/-- A transaction that is made to fail, or that fails, has only been recorded. -/
theorem Atomic.of_eq_transact
    {outcome : ClusterBehaviour → ClusterObjects → Except Failure (α × ClusterObjects)}
    (isTransaction : work = transact call outcome) : Atomic call work := by
  subst isTransaction
  constructor
  case recorded =>
    intro cluster
    rcases transact_cases cluster call outcome with ⟨failure, run⟩ | ⟨value, after, -, run⟩
    · rw [run]
      rfl
    · rw [run]
      rfl
  case unchanged =>
    intro cluster failure failed
    rcases transact_cases cluster call outcome with ⟨other, run⟩ | ⟨value, after, -, run⟩
    · rw [run]
      rfl
    · rw [run] at failed
      cases failed

/-- A watch that is not opened is not there. -/
theorem atomic_watchPods (selector : String) :
    Atomic ⟨.watchPods, selector, []⟩ (client.watchPods selector) where
  recorded cluster := by
    rcases watchPods_cases cluster selector with ⟨failure, run⟩ | ⟨watch, run⟩
    · rw [run]
      rfl
    · rw [run]
      rfl
  unchanged cluster failure failed := by
    rcases watchPods_cases cluster selector with ⟨other, run⟩ | ⟨watch, run⟩
    · rw [run]
      rfl
    · rw [run] at failed
      cases failed

/-- Running a program never changes the objects. -/
theorem atomic_exec (pod container : String) (program : List String) :
    Atomic ⟨.exec, pod ++ "/" ++ container, program⟩
      (client.execOrFail pod container program) where
  recorded cluster := by
    rw [execOrFail_run, exec_eq]
    rfl
  unchanged cluster failure _ := by
    rw [execOrFail_run, exec_eq]
    rfl

/-- Every operation is recorded once, and if it fails, whatever it was and for whatever reason,
it leaves everything else as it was. -/
theorem ask_atomic (request : ClientRequest) : Atomic request.call (client.ask request) := by
  cases request with
  | listDeployments selector => exact .of_eq_transact (inspect_eq _ _)
  | createDeployment deployment => exact .of_eq_transact (client_createDeployment deployment)
  | replaceDeployment deployment => exact .of_eq_transact (client_replaceDeployment deployment)
  | deleteDeployment name => exact .of_eq_transact (client_deleteDeployment name)
  | getService name => exact .of_eq_transact (inspect_eq _ _)
  | createService service => exact .of_eq_transact (client_createService service)
  | replaceService service => exact .of_eq_transact (client_replaceService service)
  | deleteService name => exact .of_eq_transact (client_deleteService name)
  | getClaim name => exact .of_eq_transact (inspect_eq _ _)
  | createClaim claim => exact .of_eq_transact (client_createClaim claim)
  | listPods selector => exact .of_eq_transact (inspect_eq _ _)
  | deletePod name => exact .of_eq_transact (client_deletePod name)
  | watchPods selector => exact atomic_watchPods selector
  | exec pod container program => exact atomic_exec pod container program

/-- A replacement that would move a Service has passed every other check and changes nothing. -/
theorem ask_atomic_sample :
    let service : Kubernetes.Service := { metadata := .named "web" .empty }
    let cluster := (client.createService service (.empty none)).2
    let moved : Kubernetes.Service :=
      { metadata := service.metadata.stamped "1", spec := some { clusterIP := some "10.96.0.9" } }
    let asked := client.ask (.replaceService moved) cluster
    asked.1 = .error (addressChanged "web" (some "10.96.0.9")) ∧
      asked.2.objects = cluster.objects ∧
      asked.2.history = [⟨.createService, "web", []⟩, ⟨.replaceService, "web", []⟩] := by
  intro service cluster moved asked
  have isLive : cluster.objects.services.get? "web" =
      some
        { metadata := service.metadata.stamped "1"
          spec := some { clusterIP := some "10.96.0.1", clusterIPs := some ["10.96.0.1"] } } := by
    decide +kernel
  have refused : (client.replaceService moved cluster).1 =
      .error (addressChanged "web" (some "10.96.0.9")) := by
    have outcome : cluster.objects.replaceService moved =
        .error (addressChanged "web" (some "10.96.0.9")) := by
      have isNamed : moved.metadata.nameOrEmpty = "web" := rfl
      rw [ClusterObjects.replaceService, isNamed, isLive]
      rfl
    rw [client_replaceService, transact_run, outcome]
    rfl
  have atomic := ask_atomic (.replaceService moved)
  exact ⟨refused, atomic.unchanged cluster _ refused, atomic.recorded cluster⟩

end DevfilePush.MemoryCluster
