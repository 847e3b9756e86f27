import DevfilePush.Proofs.Push.Transcript
import DevfilePush.Push.Delete

/-!
What a deletion asks a client for.

Whatever the client answers, a deletion lists the pods first. If there are any, it tries all of
its steps, in the same order whatever becomes of them, and comes to the first failure that
counts (`Deletes`). That there was no Service to delete does not count.
-/

namespace DevfilePush

open Kubernetes (Pod)

/-! ### Steps and what they come to -/

/-- All that a deletion asks for when it has found pods. -/
def deletionRequests (name : String) (pods : List Pod) : List ClientRequest :=
  .deleteDeployment name :: .deleteService name ::
    pods.map fun pod => .deletePod pod.metadata.nameOrEmpty

/-- Whether a failure of the request does not count: there was no Service to delete. -/
def ClientRequest.forgives : ClientRequest → Failure → Bool
  | .deleteService _, .cluster (.notFound ..) => true
  | .deleteService _, .cluster (.api code _) => code = 404
  | _, _ => false

/-- The failure of a step, if it counts for the whole deletion. -/
def Exchange.countedFailure? : Exchange → Option Failure
  | ⟨_, .ok _⟩ => none
  | ⟨request, .error failure⟩ => if request.forgives failure then none else some failure

/-- The steps come to a success if nothing that counts has failed, and otherwise to the first
failure that counts. -/
structure Reports (steps : List Exchange) (result : Except Failure Unit) : Prop where
  ok_iff : result = .ok () ↔ ∀ step ∈ steps, step.countedFailure? = none
  error_iff : ∀ failure, result = .error failure ↔
    ∃ earlier step later, steps = earlier ++ step :: later ∧
      (∀ before ∈ earlier, before.countedFailure? = none) ∧ step.countedFailure? = some failure

/-- The conversations of a deletion, and what each comes to. -/
inductive Deletes (name : String) (labels : Labels) :
    List Exchange → Except Failure Unit → Prop where
  | unlisted (failure : Failure) :
      Deletes name labels [⟨.listPods (labelSelector labels), .error failure⟩] (.error failure)
  | absent :
      Deletes name labels [⟨.listPods (labelSelector labels), .ok ([] : List Pod)⟩]
        (.error (.cluster (.componentNotFound name)))
  | tried {pods : List Pod} {steps : List Exchange} {result : Except Failure Unit}
      (found : pods ≠ []) (asked : steps.map (·.request) = deletionRequests name pods)
      (reports : Reports steps result) :
      Deletes name labels (⟨.listPods (labelSelector labels), .ok pods⟩ :: steps) result

section Reporting

variable {steps : List Exchange}

theorem reports_ok (none : steps.filterMap Exchange.countedFailure? = []) :
    Reports steps (.ok ()) where
  ok_iff := by
    constructor
    · intro _
      exact List.filterMap_eq_nil_iff.mp none
    · intro _
      rfl
  error_iff failure := by
    constructor
    · intro impossible
      cases impossible
    · rintro ⟨earlier, step, later, rfl, -, fails⟩
      have passes := List.filterMap_eq_nil_iff.mp none step
        (List.mem_append_right _ List.mem_cons_self)
      cases passes.symm.trans fails

/-- The first failure that counts is what the steps come to. -/
theorem reports_error {first : Failure} {rest : List Failure}
    (failures : steps.filterMap Exchange.countedFailure? = first :: rest) :
    Reports steps (.error first) where
  ok_iff := by
    constructor
    · intro impossible
      cases impossible
    · intro none
      rw [List.filterMap_eq_nil_iff.mpr none] at failures
      cases failures
  error_iff failure := by
    constructor
    · rintro ⟨⟩
      obtain ⟨earlier, step, later, split, before, fails, -⟩ :=
        List.filterMap_eq_cons_iff.mp failures
      exact ⟨earlier, step, later, split, before, fails⟩
    · rintro ⟨earlier, step, later, rfl, before, fails⟩
      rw [List.filterMap_append, List.filterMap_eq_nil_iff.mpr before, List.nil_append,
        List.filterMap_cons_some fails] at failures
      cases failures
      rfl

end Reporting

/-! ### Taking note of the steps -/

/-- Every failure of these steps counts: it is only a Service that may be missing. -/
theorem countedFailure?_deleteDeployment (name : String) (result : Except Failure Unit) :
    Exchange.countedFailure? ⟨.deleteDeployment name, result⟩ = stepFailure? result := by
  cases result <;> rfl

theorem countedFailure?_deletePod (name : String) (result : Except Failure Unit) :
    Exchange.countedFailure? ⟨.deletePod name, result⟩ = stepFailure? result := by
  cases result <;> rfl

/-- Deleting a Service is forgiven exactly where the cluster says that there is none. -/
theorem forgives_deleteService (name : String) (failure : Failure) :
    ClientRequest.forgives (.deleteService name) failure =
      failure.cluster?.any ClusterError.isNotFound := by
  cases failure with
  | cluster error => cases error <;> rfl
  | _ => rfl

/-- What counts of it is what the deletion itself takes for its failure. -/
theorem countedFailure?_deleteService (name : String) (result : Except Failure Unit) :
    Exchange.countedFailure? ⟨.deleteService name, result⟩ = serviceFailure? result := by
  cases result with
  | ok done => rfl
  | error failure =>
    change (if _ then _ else _) = Option.filter _ (some failure)
    rw [forgives_deleteService, Option.filter_some]
    cases failure.cluster?.any ClusterError.isNotFound <;> rfl

variable {σ : Type} (client : ClusterClient σ)

/-- Steps that are tried one after another: with a transcribing client they do the same as
without, the transcript has all the requests, and the failures are those that count. -/
def Tries (work : StateM (σ × List Exchange) (List Failure)) (plain : StateM σ (List Failure))
    (requests : List ClientRequest) : Prop :=
  ∀ s log, ∃ steps, work (s, log) = ((plain s).1, ((plain s).2, log ++ steps)) ∧
    steps.map (·.request) = requests ∧
    steps.filterMap Exchange.countedFailure? = (plain s).1

/-- One step before others. -/
theorem Tries.cons {work : StateM (σ × List Exchange) (List Failure)}
    {plain : StateM σ (List Failure)} {requests : List ClientRequest}
    (tries : Tries work plain requests) (request : ClientRequest)
    (count : Except Failure request.Answer → Option Failure)
    (counts : ∀ answer, Exchange.countedFailure? ⟨request, answer⟩ = count answer) :
    Tries
      (do
        let answer ← attempt (client.note request)
        return (count answer).toList ++ (← work))
      (do
        let answer ← attempt (client.ask request)
        return (count answer).toList ++ (← plain))
      (request :: requests) := by
  intro s log
  let exchange : Exchange := ⟨request, (client.ask request s).1⟩
  obtain ⟨steps, run, asked, failures⟩ := tries (client.ask request s).2 (log ++ [exchange])
  refine ⟨exchange :: steps, ?_, ?_, ?_⟩
  · rw [List.append_assoc] at run
    exact congrArg (fun others : List Failure × (σ × List Exchange) =>
      ((count exchange.answer).toList ++ others.1, others.2)) run
  · rw [List.map_cons, asked]
  · change _ = (count exchange.answer).toList ++ (plain (client.ask request s).2).1
    rw [← failures, ← counts]
    cases failed : exchange.countedFailure? with
    | none => rw [List.filterMap_cons_none failed]; rfl
    | some failure => rw [List.filterMap_cons_some failed]; rfl

/-- Every pod is tried, also after a failure. -/
theorem deletePods_tries (pods : List Pod) :
    Tries (deletePods client.transcribing pods) (deletePods client pods)
      (pods.map fun pod => .deletePod pod.metadata.nameOrEmpty) := by
  induction pods with
  | nil =>
    intro s log
    exact ⟨[], by rw [List.append_nil]; rfl, rfl, rfl⟩
  | cons pod rest ih =>
    exact ih.cons client (.deletePod pod.metadata.nameOrEmpty) stepFailure?
      (countedFailure?_deletePod _)

/-- The failures are put together from the last step on. -/
theorem deleteObjects_eq {τ : Type} (client : ClusterClient τ) (name : String) (pods : List Pod) :
    deleteObjects client name pods = (do
      let deployment ← attempt (client.deleteDeployment name)
      let others ← (do
        let service ← attempt (client.deleteService name)
        let others ← deletePods client pods
        pure ((serviceFailure? service).toList ++ others))
      pure ((stepFailure? deployment).toList ++ others)) := by
  funext s
  exact Prod.ext (List.append_assoc _ _ _) rfl

/-- The Deployment, the Service and the pods are tried in this order. -/
theorem deleteObjects_tries (name : String) (pods : List Pod) :
    Tries (deleteObjects client.transcribing name pods) (deleteObjects client name pods)
      (deletionRequests name pods) := by
  rw [deleteObjects_eq, deleteObjects_eq]
  have service := (deletePods_tries client pods).cons client (.deleteService name)
    serviceFailure? (countedFailure?_deleteService name)
  exact service.cons client (.deleteDeployment name) stepFailure?
    (countedFailure?_deleteDeployment name)

/-! ### Deletions -/

/-- What a deletion comes to after its steps. -/
def firstFailure : List Failure → Except Failure Unit
  | [] => .ok ()
  | first :: _ => .error first

theorem reports_firstFailure {steps : List Exchange} {failures : List Failure}
    (counted : steps.filterMap Exchange.countedFailure? = failures) :
    Reports steps (firstFailure failures) := by
  cases failures with
  | nil => exact reports_ok counted
  | cons first rest => exact reports_error counted

/-- A deletion, as a run. -/
theorem deleteComponent_run {τ : Type} (client : ClusterClient τ) (name : String)
    (labels : Labels) (s : τ) :
    deleteComponent client name labels s =
      match client.listPods (labelSelector labels) s with
      | (.error failure, t) => (.error failure, t)
      | (.ok [], t) => (.error (.cluster (.componentNotFound name)), t)
      | (.ok (pod :: rest), t) =>
        let tried := deleteObjects client name (pod :: rest) t
        (firstFailure tried.1, tried.2) := by
  rw [deleteComponent, Session.bind_run]
  rcases client.listPods (labelSelector labels) s with ⟨failure | pods, t⟩
  · rfl
  · cases pods with
    | nil => rfl
    | cons pod rest =>
      have notEmpty : ¬ (pod :: rest).isEmpty = true := Bool.false_ne_true
      dsimp only
      rw [if_neg notEmpty, Session.bind_run, Session.liftM_run]
      cases (deleteObjects client name (pod :: rest) t).1 <;> rfl

/-- Whatever a client answers, a deletion asks it for what `Deletes` says, in that order and for
nothing else, and comes to what `Deletes` says. -/
theorem deleteComponent_transcript {σ : Type} (client : ClusterClient σ) (name : String)
    (labels : Labels) (s : σ) :
    let run := deleteComponent client name labels s
    ∃ made, deleteComponent client.transcribing name labels (s, []) = (run.1, (run.2, made)) ∧
      Deletes name labels made run.1 := by
  intro run
  unfold run
  have listing : client.transcribing.listPods (labelSelector labels) (s, []) =
    ((client.listPods (labelSelector labels) s).1, ((client.listPods (labelSelector labels) s).2,
      [⟨.listPods (labelSelector labels), (client.listPods (labelSelector labels) s).1⟩])) := rfl
  rw [deleteComponent_run, deleteComponent_run, listing]
  rcases client.listPods (labelSelector labels) s with ⟨failure | pods, t⟩
  · exact ⟨_, rfl, .unlisted failure⟩
  · cases pods with
    | nil => exact ⟨_, rfl, .absent⟩
    | cons pod rest =>
      obtain ⟨steps, tried, asked, failures⟩ := deleteObjects_tries client name (pod :: rest) t
        [⟨.listPods (labelSelector labels), .ok (pod :: rest)⟩]
      refine ⟨_, congrArg (fun tried : List Failure × (σ × List Exchange) =>
        (firstFailure tried.1, tried.2)) tried, ?_⟩
      exact .tried (List.cons_ne_nil pod rest) asked (reports_firstFailure failures)

end DevfilePush
