import DevfilePush.Proofs.Cluster.Calm
import DevfilePush.Push.Readiness

/-!
Waiting on a cluster in memory.

Nothing happens on such a cluster while somebody waits, so the pods that are there when
the watch is opened decide (`outcome_watchOf`), and waiting changes nothing but the list
of watches.
-/

namespace DevfilePush.MemoryCluster

open Kubernetes (Pod)
open Session (Ensures)

variable {objects : ClusterObjects} {selector : String} {timeout : Duration}

/-! ### Verdicts -/

/-- What there is at once decides; if it does not, time runs out. -/
theorem outcome_watchOf :
    ((watchOf objects selector).outcome selector timeout).2 =
      (firstVerdict? (watchOf objects selector).ready).getD
        (.error (.cluster (.readinessTimeout selector timeout))) := by
  unfold PodWatch.outcome
  cases firstVerdict? (watchOf objects selector).ready with
  | some verdict => rfl
  | none => rfl

/-- Pods that are there never make more than the cluster fail. -/
theorem exists_cluster_of_verdict? {pod : Pod} {failure : Failure}
    (verdict : (PodEvent.observed pod).verdict? = some (.error failure)) :
    ∃ cause, failure = .cluster cause := by
  simp only [PodEvent.verdict?] at verdict
  split at verdict
  · cases verdict
  · split at verdict
    · cases verdict
    · split at verdict
      · cases verdict
        exact ⟨_, rfl⟩
      · cases verdict

theorem exists_cluster_of_outcome {failure : Failure}
    (failed : ((watchOf objects selector).outcome selector timeout).2 = .error failure) :
    ∃ cause, failure = .cluster cause := by
  rw [outcome_watchOf] at failed
  cases decided : firstVerdict? (watchOf objects selector).ready with
  | none =>
    rw [decided] at failed
    cases failed
    exact ⟨_, rfl⟩
  | some verdict =>
    rw [decided] at failed
    change verdict = .error failure at failed
    subst failed
    obtain ⟨event, isEvent, fromEvent⟩ := List.exists_of_findSome?_eq_some decided
    obtain ⟨pod, -, rfl⟩ := List.mem_map.mp isEvent
    exact exists_cluster_of_verdict? fromEvent

/-- A single pod that runs and matches is the one that is waited for. -/
theorem outcome_of_running {pod : Pod} (only : objects.pods.values = [pod])
    (isMatch : matchesSelector pod.metadata.labels selector = true)
    (kept : pod.metadata.deletionTimestamp = none)
    (running : pod.phase? = some Pod.runningPhase) :
    ((watchOf objects selector).outcome selector timeout).2 = .ok pod := by
  have ready : (watchOf objects selector).ready = [.observed pod] := by
    simp [watchOf, only, isMatch]
  have verdict : (PodEvent.observed pod).verdict? = some (.ok pod) := by
    simp [PodEvent.verdict?, kept, running]
  rw [outcome_watchOf, ready, firstVerdict?, List.findSome?_cons_of_isSome (by simp [verdict])]
  simp [verdict]

/-! ### Waiting -/

variable {setting : Setting} {pre : ClusterObjects → Prop}
  {fail : Failure → ClusterObjects → Prop}

/-- `watch` was opened where `pre` held, and nothing but watches has changed since. -/
def Watching (pre : ClusterObjects → Prop) (selector : String) (watch : PodWatch)
    (after : ClusterObjects) : Prop :=
  ∃ objects watches count, pre objects ∧ watch = watchOf objects selector ∧
    after = { objects with watches := watches, watchCount := count }

theorem waitForRunningPod_ensures {post : Pod → ClusterObjects → Prop}
    (stopped : Interruptible setting.behaviour pre fail)
    (settled : ∀ objects watches count, pre objects →
      match ((watchOf objects selector).outcome selector timeout).2 with
      | .ok pod => post pod { objects with watches := watches, watchCount := count }
      | .error failure =>
        fail failure { objects with watches := watches, watchCount := count }) :
    Ensures (Under setting pre) (waitForRunningPod client timeout selector)
      (fun pod => Under setting (post pod)) (fun failure => Under setting (fail failure)) := by
  have opens : Ensures (Under setting pre) (client.watchPods selector)
      (fun watch => Under setting (Watching pre selector watch))
      (fun failure => Under setting (fail failure)) :=
    watchPods_ensures stopped fun objects holds => ⟨objects, _, _, holds, rfl, rfl⟩
  refine opens.bind fun watch => ?_
  have ends : Ensures (Under setting (Watching pre selector watch))
      (liftM (client.endWatch (watch.outcome selector timeout).1))
      (fun _ => Under setting (Watching pre selector watch))
      (fun failure => Under setting (fail failure)) := by
    refine endWatch_ensures ?_
    rintro after watches ⟨objects, _, count, holds, same, rfl⟩
    exact ⟨objects, watches, count, holds, same, rfl⟩
  refine ends.bind fun _ => ?_
  have answers : Ensures (Under setting (Watching pre selector watch))
      (match (watch.outcome selector timeout).2 with
        | .ok pod => return pod
        | .error failure => throw failure)
      (fun pod => Under setting (post pod)) (fun failure => Under setting (fail failure)) := by
    cases verdict : (watch.outcome selector timeout).2 with
    | ok pod =>
      refine .pure ?_
      rintro cluster ⟨same, objects, watches, count, holds, rfl, isNow⟩
      have decided := settled objects watches count holds
      rw [verdict, ← isNow] at decided
      exact ⟨same, decided⟩
    | error failure =>
      refine .throw ?_
      rintro cluster ⟨same, objects, watches, count, holds, rfl, isNow⟩
      have decided := settled objects watches count holds
      rw [verdict, ← isNow] at decided
      exact ⟨same, decided⟩
  exact answers

/-! ### Waiting undisturbed -/

variable {behaviour : ClusterBehaviour}

theorem endWatch_performs (waited : Nat) :
    ∃ watches, Performs behaviour (liftM (client.endWatch waited)) objects [] ()
      { objects with watches := watches } := by
  cases isLast : objects.watches.reverse.find? (·.isKept) with
  | none =>
    refine ⟨objects.watches, fun history => ?_⟩
    simp [client, Session.liftM_run, Session.modify_eq, isLast]
  | some watch =>
    refine ⟨(objects.closeWatch watch.number).watches, fun history => ?_⟩
    simp [client, Session.liftM_run, Session.modify_eq, isLast, ClusterObjects.closeWatch]

/-- Where a pod is running, waiting is watching once. -/
theorem waitForRunningPod_performs (calm : behaviour.IsCalm) {pod : Pod}
    (running : ((watchOf objects selector).outcome selector timeout).2 = .ok pod) :
    ∃ watches count, Performs behaviour (waitForRunningPod client timeout selector) objects
      [⟨.watchPods, selector, []⟩] pod
      { objects with watches := watches, watchCount := count } := by
  have opens : Performs behaviour (openWatch selector) objects [⟨.watchPods, selector, []⟩]
      (objects.openWatch selector).1 (objects.openWatch selector).2 := by
    rw [openWatch_eq]
    exact performs_of_outcome calm rfl
  have watching : Performs behaviour (client.watchPods selector) objects
      [⟨.watchPods, selector, []⟩] (watchOf objects selector) (objects.openWatch selector).2 :=
    opens.bind (.pure _)
  obtain ⟨watches, ends⟩ := @endWatch_performs (objects.openWatch selector).2 behaviour
    ((watchOf objects selector).outcome selector timeout).1
  have answers (after : ClusterObjects) : Performs behaviour
      (match ((watchOf objects selector).outcome selector timeout).2 with
        | .ok pod => return pod
        | .error failure => throw failure) after [] pod after := by
    rw [running]
    exact .pure pod
  exact ⟨watches, objects.watchCount + 1, watching.bind (ends.bind (answers _))⟩

end DevfilePush.MemoryCluster
