import DevfilePush.Cluster.InMemory
import DevfilePush.Proofs.Session

/-!
Work that is tried again and again on one cluster.

Each trial begins with the objects that the one before has left, whether it succeeded or
failed, and the cluster may behave differently each time. An assertion about the objects
that every trial keeps holds before and after all of them (`holds_of_mem_runs`), and one
that has become true has become true in one of them (`exists_turn`).
-/

namespace DevfilePush

/-- Work, and how the cluster behaves while it is done. -/
structure Trial (α : Type) where
  behaviour : ClusterBehaviour
  work : Session MemoryCluster α

/-- What has become of a trial. -/
structure TrialRun (α : Type) where
  before : MemoryCluster
  result : Except Failure α
  after : MemoryCluster

namespace MemoryCluster

variable {α : Type}

/-- The cluster with another behaviour. -/
def behaving (cluster : MemoryCluster) (behaviour : ClusterBehaviour) : MemoryCluster :=
  { cluster with behaviour := behaviour }

/-- One trial. -/
def run (cluster : MemoryCluster) (trial : Trial α) : TrialRun α :=
  { before := cluster.behaving trial.behaviour
    result := (trial.work (cluster.behaving trial.behaviour)).1
    after := (trial.work (cluster.behaving trial.behaviour)).2 }

/-- Trials one after another. -/
def runs (cluster : MemoryCluster) : List (Trial α) → List (TrialRun α)
  | [] => []
  | trial :: rest => cluster.run trial :: (cluster.run trial).after.runs rest

/-- What all trials leave behind. -/
def afterAll (cluster : MemoryCluster) : List (Trial α) → MemoryCluster
  | [] => cluster
  | trial :: rest => (cluster.run trial).after.afterAll rest

/-- What the work of a trial ensures is true of its run. -/
theorem run_ensures {trial : Trial α} {work : Session MemoryCluster α} (isWork : trial.work = work)
    {pre : MemoryCluster → Prop} {post : α → MemoryCluster → Prop}
    {fail : Failure → MemoryCluster → Prop} (triple : Session.Ensures pre work post fail)
    {start : MemoryCluster} (begun : pre (start.behaving trial.behaviour)) :
    (∀ value, (start.run trial).result = .ok value → post value (start.run trial).after) ∧
      ∀ failure, (start.run trial).result = .error failure →
        fail failure (start.run trial).after := by
  subst isWork
  constructor
  · intro value isOk
    exact triple.ok begun (Prod.ext isOk rfl)
  · intro failure isError
    exact triple.error begun (Prod.ext isError rfl)

/-- Every trial keeps an assertion about the objects, however it ends. -/
def KeptByTrials (holds : ClusterObjects → Prop) (trials : List (Trial α)) : Prop :=
  ∀ trial ∈ trials, ∀ cluster : MemoryCluster, holds cluster.objects →
    holds (cluster.run trial).after.objects

theorem KeptByTrials.tail {holds : ClusterObjects → Prop} {trial : Trial α}
    {rest : List (Trial α)} (kept : KeptByTrials holds (trial :: rest)) :
    KeptByTrials holds rest :=
  fun other mem => kept other (List.mem_cons_of_mem _ mem)

variable {holds : ClusterObjects → Prop} {cluster : MemoryCluster} {trials : List (Trial α)}

/-- What every trial keeps is true in the end. -/
theorem holds_afterAll (kept : KeptByTrials holds trials) (begun : holds cluster.objects) :
    holds (cluster.afterAll trials).objects := by
  induction trials generalizing cluster with
  | nil => exact begun
  | cons trial rest ih =>
    have first := kept trial List.mem_cons_self cluster begun
    exact ih kept.tail first

/-- A run is the run of some trial, begun where everything that is kept was true. -/
theorem holds_of_mem_runs (kept : KeptByTrials holds trials) (begun : holds cluster.objects)
    {run : TrialRun α} (mem : run ∈ cluster.runs trials) :
    ∃ trial ∈ trials, ∃ start : MemoryCluster, run = start.run trial ∧ holds start.objects := by
  induction trials generalizing cluster with
  | nil => cases mem
  | cons trial rest ih =>
    rcases List.mem_cons.mp mem with rfl | mem
    · exact ⟨trial, List.mem_cons_self, cluster, rfl, begun⟩
    · have first := kept trial List.mem_cons_self cluster begun
      obtain ⟨other, otherMem, start, isRun, held⟩ :=
        ih kept.tail first mem
      exact ⟨other, List.mem_cons_of_mem _ otherMem, start, isRun, held⟩

/-- A run is the run of some trial. -/
theorem exists_trial_of_mem_runs {run : TrialRun α} (mem : run ∈ cluster.runs trials) :
    ∃ trial ∈ trials, ∃ start : MemoryCluster, run = start.run trial := by
  have kept : KeptByTrials (fun _ => True) trials := fun _ _ _ _ => trivial
  obtain ⟨trial, isTrial, start, isRun, -⟩ := holds_of_mem_runs kept trivial mem
  exact ⟨trial, isTrial, start, isRun⟩

/-- What was not true to begin with, and is true after a run, has become true in that run
or in an earlier one. -/
theorem exists_turn (turned : ClusterObjects → Prop) {earlier later : List (TrialRun α)}
    {last : TrialRun α} (split : cluster.runs trials = earlier ++ last :: later)
    (notYet : ¬ turned cluster.objects) (now : turned last.after.objects) :
    ∃ run ∈ earlier ++ [last], ¬ turned run.before.objects ∧ turned run.after.objects := by
  induction trials generalizing cluster earlier with
  | nil => cases earlier <;> cases split
  | cons trial rest ih =>
    by_cases atOnce : turned (cluster.run trial).after.objects
    · refine ⟨cluster.run trial, ?_, notYet, atOnce⟩
      cases earlier with
      | nil =>
        cases split
        exact List.mem_singleton_self _
      | cons first others =>
        obtain ⟨isFirst, -⟩ := List.cons.inj split
        rw [isFirst]
        exact List.mem_cons_self
    · cases earlier with
      | nil =>
        cases split
        exact absurd now atOnce
      | cons first others =>
        obtain ⟨isFirst, splitRest⟩ := List.cons.inj split
        obtain ⟨run, mem, turns⟩ := ih splitRest atOnce
        exact ⟨run, List.mem_cons_of_mem _ mem, turns⟩

end MemoryCluster

end DevfilePush
