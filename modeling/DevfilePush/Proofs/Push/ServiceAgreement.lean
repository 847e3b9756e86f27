import DevfilePush.Proofs.Cluster.Trials
import DevfilePush.Proofs.Push.Reconcile
import DevfilePush.Push.Delete

/-!
Whether the Service is in line after reconciling.

Both paths store a desired Service. One that is not desired is dropped only by an update,
so a Service without a Deployment survives the creation of a component that has no ports.
Nothing else goes wrong (`serviceInLine_of_reconciled`). Such a Service is what a deletion
leaves behind when it fails at the Service alone (`leftover`).
-/

namespace DevfilePush

open Kubernetes (Pod Service)

/-- There is a Service exactly when one is desired, and then it offers what is asked for. -/
def DesiredComponent.ServiceInLine (desired : DesiredComponent) (objects : ClusterObjects) :
    Prop :=
  match desired.service, objects.services.get? desired.name with
  | some service, some live => live.AgreesWith service
  | none, none => True
  | _, _ => False

namespace DesiredComponent

variable {desired : DesiredComponent} {objects : ClusterObjects}

theorem serviceInLine_of_some {service live : Service} (isDesired : desired.service = some service)
    (isLive : objects.services.get? desired.name = some live) (agrees : live.AgreesWith service) :
    desired.ServiceInLine objects := by
  rw [ServiceInLine, isDesired, isLive]
  exact agrees

/-- Where no Service is desired, being in line is having none. -/
theorem serviceInLine_iff_of_none (notDesired : desired.service = none) :
    desired.ServiceInLine objects ↔ objects.services.get? desired.name = none := by
  rw [ServiceInLine, notDesired]
  cases objects.services.get? desired.name with
  | some live => simp
  | none => simp

end DesiredComponent

namespace MemoryCluster

variable {behaviour : ClusterBehaviour} {timeout : Duration} {desired : DesiredComponent}
  {before after : ClusterObjects} {outcome : ReconcileOutcome}

theorem serviceInLine_of_reconciled
    (reconciled : Reconciled behaviour timeout desired before outcome after) :
    desired.ServiceInLine after ↔
      ¬ (before.deployments.get? desired.name = none ∧ desired.service = none ∧
        before.services.get? desired.name ≠ none) := by
  have settled := reconciled.settled
  have probed := reconciled.deployed.probed
  cases isDesired : desired.service with
  | some service =>
    rw [ServiceSettled, isDesired] at settled
    obtain ⟨stored, services, agrees, -⟩ := settled
    have isLive : after.services.get? desired.name = some stored := by
      rw [services, OrderedMap.get?_insert_self]
    have inLine := DesiredComponent.serviceInLine_of_some isDesired isLive agrees
    simp [inLine]
  | none =>
    rw [DesiredComponent.serviceInLine_iff_of_none isDesired]
    rw [ServiceSettled, isDesired] at settled
    cases isLive : desired.live? before with
    | some live =>
      rw [isLive] at settled
      have dropped : after.services.get? desired.name = none := by
        rw [settled, OrderedMap.get?_erase, if_pos rfl]
      have stored : before.deployments.get? desired.name ≠ none := by
        intro absent
        cases isLive.symm.trans (probed.mpr absent)
      simp [dropped, stored]
    | none =>
      rw [isLive] at settled
      have absent : before.deployments.get? desired.name = none := probed.mp isLive
      rw [settled]
      simp [absent]

/-- After reconciling, the Service is in line, unless the component was created without
ports while a Service was left under its name. -/
theorem serviceInLine_iff {before after : MemoryCluster} (rendered : desired.IsRendered)
    (run : reconcile client timeout desired before = (.ok outcome, after)) :
    desired.ServiceInLine after.objects ↔
      ¬ (before.objects.deployments.get? desired.name = none ∧ desired.service = none ∧
        before.objects.services.get? desired.name ≠ none) := by
  exact serviceInLine_of_reconciled (reconciled_of_run rendered run)

/-- A component with a port is created together with its Service. -/
theorem serviceInLine_sample :
    ∃ desired outcome after, desired.IsRendered ∧
      reconcile client ⟨0⟩ desired (.empty (some Pod.runningPhase)) = (.ok outcome, after) ∧
      desired.ServiceInLine after.objects := by
  have succeeds : ∃ desired, render (.sample [8080]) {} = .ok desired ∧
      (reconcile client ⟨0⟩ desired (.empty (some Pod.runningPhase))).1.toOption.any
        (fun _ => true) = true :=
    Checked.exists_of_any_toOption (by decide +kernel)
  obtain ⟨desired, rendered, succeeds⟩ := succeeds
  obtain ⟨outcome, run, -⟩ := Checked.exists_of_any_toOption succeeds
  have inLine := (serviceInLine_iff ⟨_, _, rendered⟩ (Prod.ext run rfl)).mpr (by
    rintro ⟨-, -, occupied⟩
    exact occupied rfl)
  exact ⟨desired, outcome, _, ⟨_, _, rendered⟩, Prod.ext run rfl, inLine⟩

/-! ### A Service without a Deployment -/

/-- What is left of a component that has been created and then deleted, all but its
Service. -/
def leftover (desired : DesiredComponent) : MemoryCluster :=
  let created := (empty none).run ⟨.running none, reconcile client ⟨0⟩ desired⟩
  let deleted := created.after.run
    ⟨.running (some .deleteService), deleteComponent client desired.name desired.labels⟩
  deleted.after.behaving (.running none)

/-- The Service that is left over stays when the component is created again without
ports. -/
theorem not_serviceInLine_of_leftover :
    ¬ ∀ (desired : DesiredComponent) (timeout : Duration) (before after : MemoryCluster)
      (outcome : ReconcileOutcome), desired.IsRendered →
      reconcile client timeout desired before = (.ok outcome, after) →
      desired.ServiceInLine after.objects := by
  intro claim
  have survives : ∃ served, render (.sample [8080]) {} = .ok served ∧
      (render (.sample []) {}).toOption.any (fun desired =>
        let run := reconcile client ⟨0⟩ desired (leftover served)
        run.1.toOption.isSome && desired.service.isNone &&
          run.2.objects.services.contains desired.name) = true :=
    Checked.exists_of_any_toOption (by decide +kernel)
  obtain ⟨served, -, survives⟩ := survives
  obtain ⟨desired, rendered, survives⟩ := Checked.exists_of_any_toOption survives
  simp only [Bool.and_eq_true, Option.isNone_iff_eq_none, OrderedMap.contains] at survives
  obtain ⟨⟨succeeds, notDesired⟩, live⟩ := survives
  cases run : reconcile client ⟨0⟩ desired (leftover served) with
  | mk result after =>
    rw [run] at succeeds live
    cases result with
    | error failure => cases succeeds
    | ok outcome =>
      have inLine := claim desired ⟨0⟩ _ after outcome ⟨_, _, rendered⟩ run
      rw [DesiredComponent.serviceInLine_iff_of_none notDesired] at inLine
      rw [inLine] at live
      cases live

end MemoryCluster

end DevfilePush
