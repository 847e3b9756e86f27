import DevfilePush.Cluster.InMemory
import DevfilePush.Proofs.Session
import DevfilePush.Push.Readiness

/-!
Which event ends a wait.

An event either ends the wait for a running pod (`Decides`) or goes by (`Passes`), and the
first one that ends it is the only one that counts (`nextRunningPod_decided`). A pod that is
being deleted goes by whatever its phase, so what an earlier rollout left behind is not taken
for the pod that is awaited.
-/

namespace DevfilePush

open Kubernetes (Pod)

namespace PodEvent

/-- The events that end a wait, and its outcome. -/
inductive Decides : PodEvent → Except Failure Pod → Prop where
  | failure (cause : Failure) : Decides (.failed cause) (.error cause)
  | running {pod : Pod} : pod.metadata.deletionTimestamp = none →
      pod.phase? = some "Running" → Decides (.observed pod) (.ok pod)
  | podFailed {pod : Pod} : pod.metadata.deletionTimestamp = none →
      pod.phase? = some "Failed" →
      Decides (.observed pod)
        (.error (.cluster (.podFailed (pod.metadata.name.getD "") "Failed")))

/-- The events that go by. -/
inductive Passes : PodEvent → Prop where
  | deleting {pod : Pod} : pod.metadata.deletionTimestamp ≠ none → Passes (.observed pod)
  | otherPhase {pod : Pod} : pod.phase? ≠ some "Running" → pod.phase? ≠ some "Failed" →
      Passes (.observed pod)

variable {event : PodEvent} {outcome : Except Failure Pod}

theorem Decides.verdict?_eq (decides : event.Decides outcome) : event.verdict? = some outcome := by
  cases decides with
  | failure cause => rfl
  | running kept phase => simp [verdict?, kept, phase, Pod.runningPhase]
  | podFailed kept phase =>
    simp [verdict?, kept, phase, Pod.runningPhase, Pod.failedPhase,
      Kubernetes.Metadata.nameOrEmpty]

theorem Passes.verdict?_eq (passes : event.Passes) : event.verdict? = none := by
  cases passes with
  | deleting isDeleting => simp [verdict?, Option.isSome_iff_ne_none, isDeleting]
  | otherPhase notRunning notFailed =>
    simp [verdict?, Pod.runningPhase, Pod.failedPhase, notRunning, notFailed]

/-- There is no third kind of event. -/
theorem passes_or_decides (event : PodEvent) : event.Passes ∨ ∃ outcome, event.Decides outcome := by
  cases event with
  | failed cause => exact .inr ⟨_, .failure cause⟩
  | observed pod =>
    by_cases kept : pod.metadata.deletionTimestamp = none
    · by_cases running : pod.phase? = some "Running"
      · exact .inr ⟨_, .running kept running⟩
      · by_cases failed : pod.phase? = some "Failed"
        · exact .inr ⟨_, .podFailed kept failed⟩
        · exact .inl (.otherPhase running failed)
    · exact .inl (.deleting kept)

/-- Having no verdict is going by. -/
theorem verdict?_eq_none_iff : event.verdict? = none ↔ event.Passes := by
  constructor
  · intro undecided
    rcases event.passes_or_decides with passes | ⟨outcome, decides⟩
    · exact passes
    · rw [decides.verdict?_eq] at undecided
      cases undecided
  · exact Passes.verdict?_eq

/-- The verdict on an event is what the event decides. -/
theorem verdict?_eq_some_iff : event.verdict? = some outcome ↔ event.Decides outcome := by
  constructor
  · intro decided
    rcases event.passes_or_decides with passes | ⟨other, decides⟩
    · rw [passes.verdict?_eq] at decided
      cases decided
    · rw [decides.verdict?_eq] at decided
      cases decided
      exact decides
  · exact Decides.verdict?_eq

end PodEvent

/-! ### Events in a row -/

/-- The first verdict is that of an event before which all others go by. -/
theorem firstVerdict?_eq_some_iff {events : List PodEvent} {outcome : Except Failure Pod} :
    firstVerdict? events = some outcome ↔
      ∃ before event after, events = before ++ event :: after ∧
        (∀ earlier ∈ before, earlier.Passes) ∧ event.Decides outcome := by
  simp only [firstVerdict?, List.findSome?_eq_some_iff, PodEvent.verdict?_eq_some_iff,
    PodEvent.verdict?_eq_none_iff]
  constructor
  · rintro ⟨before, event, after, split, decides, passed⟩
    exact ⟨before, event, after, split, passed, decides⟩
  · rintro ⟨before, event, after, split, passed, decides⟩
    exact ⟨before, event, after, split, decides, passed⟩

/-- There is no verdict where all events go by. -/
theorem firstVerdict?_eq_none_iff {events : List PodEvent} :
    firstVerdict? events = none ↔ ∀ event ∈ events, event.Passes := by
  simp only [firstVerdict?, List.findSome?_eq_none_iff, PodEvent.verdict?_eq_none_iff]

theorem firstVerdict?_append (events later : List PodEvent) :
    firstVerdict? (events ++ later) = (firstVerdict? events).or (firstVerdict? later) :=
  List.findSome?_append

theorem firstVerdict?_cons_of_passes {event : PodEvent} (passes : event.Passes)
    (later : List PodEvent) : firstVerdict? (event :: later) = firstVerdict? later :=
  List.findSome?_cons_of_isNone (by rw [passes.verdict?_eq]; rfl)

theorem firstVerdict?_cons_of_decides {event : PodEvent} {outcome : Except Failure Pod}
    (decides : event.Decides outcome) (later : List PodEvent) :
    firstVerdict? (event :: later) = some outcome := by
  rw [firstVerdict?, List.findSome?_cons, decides.verdict?_eq]

/-! ### Events over time -/

/-- The times of events do not matter for which of them is the first to decide. -/
theorem firstTimedVerdict?_map (events : List (Nat × PodEvent)) :
    (firstTimedVerdict? events).map (·.2) = firstVerdict? (events.map (·.2)) := by
  induction events with
  | nil => rfl
  | cons event later ih =>
    simp only [firstTimedVerdict?, firstVerdict?, List.map_cons, List.findSome?_cons] at ih ⊢
    cases event.2.verdict? with
    | none => exact ih
    | some verdict => rfl

/-- Where all events come in time and then the watch ends, time plays no part. -/
theorem PodWatch.outcome_of_ends {watch : PodWatch} {selector : String} {timeout : Duration}
    (ends : watch.ends = true)
    (inTime : ∀ event ∈ watch.later, event.1 < timeout.milliseconds) :
    (watch.outcome selector timeout).2 =
      nextRunningPod (watch.ready ++ watch.later.map (·.2)) := by
  have all : (watch.later.filter fun event => event.1 < timeout.milliseconds) = watch.later := by
    rw [List.filter_eq_self]
    intro event mem
    exact decide_eq_true (inTime event mem)
  rw [nextRunningPod, firstVerdict?_append, ← firstTimedVerdict?_map, PodWatch.outcome]
  cases firstVerdict? watch.ready with
  | some verdict => rfl
  | none =>
    simp only [all, ends, decide_true, Bool.and_self, if_true, Option.none_or]
    cases firstTimedVerdict? watch.later with
    | some decided => rfl
    | none => rfl

/-- Waiting is watching, and the outcome is that of the watch. -/
theorem waitForRunningPod_run {σ : Type} {client : ClusterClient σ} {timeout : Duration}
    {selector : String} {state opened : σ} {watch : PodWatch}
    (opens : client.watchPods selector state = (.ok watch, opened)) :
    waitForRunningPod client timeout selector state =
      ((watch.outcome selector timeout).2,
        (client.endWatch (watch.outcome selector timeout).1 opened).2) := by
  rw [waitForRunningPod, Session.bind_run, opens]
  simp only [Session.bind_run, Session.liftM_run]
  cases (watch.outcome selector timeout).2 with
  | ok pod => rfl
  | error failure => rfl

/-- **The first event that decides is the only one that counts**: its outcome is that of the
wait, and only where every event goes by the end of the watch is an error. So an event that
goes by may be left out, and after an event that decides anything may follow. A client whose
watch reports the events in time and then ends is waited on with this outcome. -/
theorem nextRunningPod_decided :
    (∀ events outcome, nextRunningPod events = outcome ↔
      (∃ before event after, events = before ++ event :: after ∧
        (∀ earlier ∈ before, earlier.Passes) ∧ event.Decides outcome) ∨
      ((∀ event ∈ events, event.Passes) ∧
        outcome = .error (.cluster (.watch (some "watch ended before a pod was running"))))) ∧
    (∀ before event after, event.Passes →
      nextRunningPod (before ++ event :: after) = nextRunningPod (before ++ after)) ∧
    (∀ before event outcome after others, event.Decides outcome →
      nextRunningPod (before ++ event :: after) = nextRunningPod (before ++ event :: others)) ∧
    (∀ (σ : Type) (client : ClusterClient σ) timeout selector state opened watch,
      client.watchPods selector state = (.ok watch, opened) →
      watch.ends = true → (∀ event ∈ watch.later, event.1 < timeout.milliseconds) →
      (waitForRunningPod client timeout selector state).1 =
        nextRunningPod (watch.ready ++ watch.later.map (·.2))) := by
  refine ⟨?_, ?_, ?_, ?_⟩
  · intro events outcome
    rw [← firstVerdict?_eq_some_iff, ← firstVerdict?_eq_none_iff, nextRunningPod]
    cases firstVerdict? events with
    | none =>
      simp only [Option.getD_none, watchEnded, true_and, reduceCtorEq, false_or]
      exact eq_comm
    | some verdict => simp
  · intro before event after passes
    rw [nextRunningPod, nextRunningPod, firstVerdict?_append, firstVerdict?_append,
      firstVerdict?_cons_of_passes passes]
  · intro before event outcome after others decides
    rw [nextRunningPod, nextRunningPod, firstVerdict?_append, firstVerdict?_append,
      firstVerdict?_cons_of_decides decides, firstVerdict?_cons_of_decides decides]
  · intro σ client timeout selector state opened watch opens ends inTime
    rw [waitForRunningPod_run opens, PodWatch.outcome_of_ends ends inTime]

/-- A failed pod that is on its way out, then its successor, then the end of the connection. -/
theorem nextRunningPod_decided_successor :
    let gone : Pod :=
      { metadata := { name := some "web-1", deletionTimestamp := some "2024-01-02T03:04:05Z" }
        status := some ⟨some "Failed"⟩ }
    let pending : Pod := { metadata := { name := some "web-2" }, status := some ⟨some "Pending"⟩ }
    let live : Pod := { metadata := { name := some "web-2" }, status := some ⟨some "Running"⟩ }
    let watch : PodWatch :=
      ⟨[.observed gone], [(20, .observed pending), (40, .observed live), (60, .failed watchEnded)],
        true⟩
    let client : ClusterClient MemoryCluster :=
      { MemoryCluster.client with watchPods := fun _ => pure watch }
    let cluster : MemoryCluster := .empty none
    client.watchPods "component=web" cluster = (.ok watch, cluster) ∧
      (∀ event ∈ watch.later, event.1 < (Duration.ofSeconds 240).milliseconds) ∧
      (PodEvent.observed gone).Passes ∧ (PodEvent.observed live).Decides (.ok live) ∧
      (waitForRunningPod client (.ofSeconds 240) "component=web" cluster).1 = .ok live := by
  intro gone pending live watch client cluster
  have opens : client.watchPods "component=web" cluster = (.ok watch, cluster) := rfl
  have inTime : ∀ event ∈ watch.later, event.1 < (Duration.ofSeconds 240).milliseconds := by
    decide
  have passes : (PodEvent.observed gone).Passes := .deleting nofun
  have waits : (PodEvent.observed pending).Passes := .otherPhase (by decide) (by decide)
  have decides : (PodEvent.observed live).Decides (.ok live) := .running rfl rfl
  obtain ⟨first, -, -, waiting⟩ := nextRunningPod_decided
  refine ⟨opens, inTime, passes, decides, ?_⟩
  rw [waiting _ client _ _ _ _ watch opens rfl inTime]
  refine (first _ _).mpr (.inl ⟨[.observed gone, .observed pending], .observed live, _, rfl, ?_,
    decides⟩)
  intro event mem
  rcases List.mem_cons.mp mem with rfl | mem
  · exact passes
  · rw [List.mem_singleton.mp mem]
    exact waits

end DevfilePush
