import DevfilePush.Cluster.Client

/-!
Waiting for a running pod.

The first event that settles the matter decides: a failure of the watch, a running pod
or a failed one. Pods that are being deleted and pods in other phases settle nothing.
-/

namespace DevfilePush

open Kubernetes (Pod)

/-- What an event settles, if anything. -/
def PodEvent.verdict? : PodEvent → Option (Except Failure Pod)
  | .failed cause => some (.error cause)
  | .observed pod =>
    if pod.metadata.deletionTimestamp.isSome then none
    else if pod.phase? = some Pod.runningPhase then some (.ok pod)
    else if pod.phase? = some Pod.failedPhase then
      some (.error (.cluster (.podFailed pod.metadata.nameOrEmpty Pod.failedPhase)))
    else none

/-- The verdict of the first event that has one. -/
def firstVerdict? (events : List PodEvent) : Option (Except Failure Pod) :=
  events.findSome? PodEvent.verdict?

/-- The first verdict of timed events, with its time. -/
def firstTimedVerdict? (events : List (Nat × PodEvent)) : Option (Nat × Except Failure Pod) :=
  events.findSome? fun event => event.2.verdict?.map fun verdict => (event.1, verdict)

/-- The watch was over before a pod was running. -/
def watchEnded : Failure :=
  .cluster (.watch (some "watch ended before a pod was running"))

/-- The outcome of a watch that ends after `events`. -/
def nextRunningPod (events : List PodEvent) : Except Failure Pod :=
  (firstVerdict? events).getD (.error watchEnded)

/-- The number of whole milliseconds that begin before the span is over. -/
def Duration.milliseconds (span : Duration) : Nat :=
  (span.nanoseconds + 999999) / 1000000

/-- The outcome of waiting on a watch for at most `timeout`, and the milliseconds that
have begun until then. What is there at once decides even if no time is given. -/
def PodWatch.outcome (watch : PodWatch) (selector : String) (timeout : Duration) :
    Nat × Except Failure Pod :=
  match firstVerdict? watch.ready with
  | some verdict => (0, verdict)
  | none =>
    let inTime := watch.later.filter fun event => event.1 < timeout.milliseconds
    match firstTimedVerdict? inTime with
    | some (time, verdict) => (time + 1, verdict)
    | none =>
      if watch.ends && inTime.length = watch.later.length then
        ((inTime.getLast?.map fun event => event.1 + 1).getD 0, .error watchEnded)
      else (timeout.milliseconds, .error (.cluster (.readinessTimeout selector timeout)))

/-- Waits until a pod that matches `selector` is running. -/
def waitForRunningPod {σ : Type} (client : ClusterClient σ) (timeout : Duration)
    (selector : String) : Session σ Pod := do
  let watch ← client.watchPods selector
  let (waited, outcome) := watch.outcome selector timeout
  client.endWatch waited
  match outcome with
  | .ok pod => return pod
  | .error failure => throw failure

end DevfilePush
