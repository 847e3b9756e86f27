import DevfilePush.Proofs.Cluster.Request
import DevfilePush.Push.Reconcile

/-!
Recording the programs that a client runs.

Programs that are run until one fails leave records of a certain shape (`CarriedOut`). To see
them, a client of any kind can be given a log of the programs that it runs, each with what came
of it (`ClusterClient.recording`). No other operation enters anything. So work that runs no
programs does the same with the log as without it and leaves it alone (`Session.beside`), and
reconciling a component is work of this kind (`reconcile_recording`).
-/

namespace DevfilePush

open Kubernetes (Claim Deployment)

/-! ### Records -/

/-- A program to be run in a container of a pod. -/
structure ExecRequest where
  pod : String
  container : String
  program : List String
  deriving DecidableEq, Repr

/-- A program that was run, and what came of it. -/
structure ExecRecord where
  request : ExecRequest
  result : ExecResult
  deriving DecidableEq, Repr

/-- The program ran to its end. -/
def ExecRecord.Succeeded (record : ExecRecord) : Prop :=
  record.result.failure = none

/-! ### Carrying out requests -/

/-- Records of requests that were carried out one by one: all of them, and each with success,
or only up to the first one that failed, with its failure. -/
inductive CarriedOut {α : Type} (planned : List ExecRequest) (made : List ExecRecord) :
    Except Failure α → Prop where
  | completed {value : α} (whole : made.map ExecRecord.request = planned)
      (succeeded : ∀ record ∈ made, record.Succeeded) : CarriedOut planned made (.ok value)
  | stopped {earlier : List ExecRecord} {last : ExecRecord} {failure : Failure}
      (isMade : made = earlier ++ [last]) (isPrefix : made.map ExecRecord.request <+: planned)
      (succeeded : ∀ record ∈ earlier, record.Succeeded)
      (failed : last.result.failure = some failure) : CarriedOut planned made (.error failure)

namespace CarriedOut

theorem single (record : ExecRecord) :
    CarriedOut [record.request] [record] record.result.answer := by
  unfold ExecResult.answer
  cases isFailure : record.result.failure with
  | none =>
    refine .completed rfl fun other mem => ?_
    rw [List.mem_singleton.mp mem]
    exact isFailure
  | some failure => exact .stopped (List.nil_append _).symm List.prefix_rfl (by simp) isFailure

variable {α β : Type} {first second : List ExecRequest} {made more : List ExecRecord}
  {result : Except Failure α}

/-- What comes after a failure is not begun. -/
theorem extend {failure : Failure} (stops : CarriedOut first made (.error failure : Except _ β)) :
    CarriedOut (first ++ second) made (.error failure : Except _ α) := by
  cases stops with
  | stopped isMade isPrefix succeeded failed =>
    exact .stopped isMade (isPrefix.trans (List.prefix_append _ _)) succeeded failed

/-- What comes after successes goes on where they have ended. -/
theorem after (whole : made.map ExecRecord.request = first)
    (succeeded : ∀ record ∈ made, record.Succeeded) (rest : CarriedOut second more result) :
    CarriedOut (first ++ second) (made ++ more) result := by
  have both {others : List ExecRecord} (all : ∀ record ∈ others, record.Succeeded) :
      ∀ record ∈ made ++ others, record.Succeeded := by
    intro record mem
    rcases List.mem_append.mp mem with mem | mem
    · exact succeeded record mem
    · exact all record mem
  cases rest with
  | completed wholeRest succeededRest =>
    exact .completed (by rw [List.map_append, whole, wholeRest]) (both succeededRest)
  | stopped isMore isPrefix succeededRest failed =>
    refine .stopped (by rw [isMore, List.append_assoc]) ?_ (both succeededRest) failed
    rw [List.map_append, whole]
    exact (List.prefix_append_right_inj first).mpr isPrefix

/-- Nothing less than carrying out all requests with success is a success. -/
theorem exists_ok_iff (carried : CarriedOut first made result) :
    (∃ value, result = .ok value) ↔
      made.map ExecRecord.request = first ∧ ∀ record ∈ made, record.Succeeded := by
  cases carried with
  | @completed value whole succeeded => exact ⟨fun _ => ⟨whole, succeeded⟩, fun _ => ⟨value, rfl⟩⟩
  | @stopped earlier last failure isMade isPrefix succeeded failed =>
    constructor
    · rintro ⟨value, impossible⟩
      cases impossible
    · rintro ⟨-, all⟩
      have lastSucceeded : last.result.failure = none :=
        all last (isMade ▸ List.mem_append_right _ (List.mem_singleton_self last))
      rw [failed] at lastSucceeded
      cases lastSucceeded

end CarriedOut

/-! ### Recording clients -/

/-- Work beside something that it neither reads nor changes. -/
def Session.beside {σ ρ α : Type} (work : Session σ α) : Session (σ × ρ) α :=
  fun (s, other) => let (result, t) := work s; (result, (t, other))

open Session (beside)

/-- The client with a log of the programs that it runs. -/
def ClusterClient.recording {σ : Type} (client : ClusterClient σ) :
    ClusterClient (σ × List ExecRecord) where
  listDeployments selector := beside (client.listDeployments selector)
  createDeployment deployment := beside (client.createDeployment deployment)
  replaceDeployment deployment := beside (client.replaceDeployment deployment)
  deleteDeployment name := beside (client.deleteDeployment name)
  getService name := beside (client.getService name)
  createService service := beside (client.createService service)
  replaceService service := beside (client.replaceService service)
  deleteService name := beside (client.deleteService name)
  getClaim name := beside (client.getClaim name)
  createClaim claim := beside (client.createClaim claim)
  listPods selector := beside (client.listPods selector)
  deletePod name := beside (client.deletePod name)
  watchPods selector := beside (client.watchPods selector)
  endWatch waited := fun (s, log) => ((), ((client.endWatch waited s).2, log))
  exec pod container program := fun (s, log) =>
    let (result, t) := client.exec pod container program s
    (result, (t, log ++ [⟨⟨pod, container, program⟩, result⟩]))

/-! ### Work that runs no programs -/

namespace Session

variable {σ ρ α β : Type}

/-- Work beside something is put together of work beside it. -/
theorem beside_bind (work : Session σ β) (next : β → Session σ α) :
    beside (work >>= next) =
      (beside work >>= fun value => beside (next value) : Session (σ × ρ) α) := by
  funext ⟨s, other⟩
  rw [bind_run]
  simp only [beside, bind_run]
  cases work s with
  | mk result t => cases result <;> rfl

end Session

open Session (beside_bind)

variable {σ : Type} (client : ClusterClient σ)

/-- No step of ensuring the claims runs a program, and so on with each part of reconciling. -/
theorem ensureClaims_recording (claims : List Claim) :
    ensureClaims client.recording claims = beside (ensureClaims client claims) := by
  induction claims with
  | nil => rfl
  | cons claim rest ih =>
    rw [ensureClaims, ensureClaims, beside_bind]
    refine bind_congr fun found => ?_
    cases found with
    | some live => exact ih
    | none =>
      dsimp only
      rw [beside_bind, ih]
      rfl

theorem createComponent_recording (desired : DesiredComponent) :
    createComponent client.recording desired = beside (createComponent client desired) := by
  rw [createComponent, createComponent, beside_bind]
  refine bind_congr fun _ => ?_
  cases desired.service with
  | none => rfl
  | some service =>
    dsimp only
    rw [beside_bind]
    rfl

theorem updateService_recording (desired : DesiredComponent) :
    updateService client.recording desired = beside (updateService client desired) := by
  rw [updateService, updateService, beside_bind]
  refine bind_congr fun live => ?_
  cases desired.service with
  | none => cases live <;> rfl
  | some service =>
    cases live with
    | none =>
      dsimp only
      rw [beside_bind]
      rfl
    | some live =>
      dsimp only
      rw [beside_bind]
      rfl

theorem applyComponent_recording (desired : DesiredComponent) (live : Option Deployment) :
    applyComponent client.recording desired live = beside (applyComponent client desired live) := by
  cases live with
  | none =>
    rw [applyComponent, applyComponent, beside_bind, createComponent_recording]
    rfl
  | some live =>
    rw [applyComponent, applyComponent, beside_bind, updateComponent, updateComponent, beside_bind,
      updateService_recording]
    rfl

/-- Neither does waiting, and it is the watch that is waited for. -/
theorem waitForRunningPod_recording (timeout : Duration) (selector : String) :
    waitForRunningPod client.recording timeout selector =
      beside (waitForRunningPod client timeout selector) := by
  rw [waitForRunningPod, waitForRunningPod, beside_bind]
  refine bind_congr fun watch => ?_
  generalize watch.outcome selector timeout = outcome
  rw [beside_bind]
  refine bind_congr fun _ => ?_
  cases outcome.2 <;> rfl

/-- Reconciling runs no programs. -/
theorem reconcile_recording (timeout : Duration) (desired : DesiredComponent) :
    reconcile client.recording timeout desired = beside (reconcile client timeout desired) := by
  rw [reconcile, reconcile, beside_bind]
  refine bind_congr fun deployments => ?_
  dsimp only
  rw [beside_bind, ensureClaims_recording]
  refine bind_congr fun _ => ?_
  rw [beside_bind, applyComponent_recording]
  refine bind_congr fun action => ?_
  rw [beside_bind, waitForRunningPod_recording]
  rfl

end DevfilePush
