import DevfilePush.Proofs.Cluster.Action

/-!
What a watch reports.

Pods are published when they are added from outside, and when they are scheduled for a
Deployment that is created or replaced (`published`). All open watches are gone through then, and
those that nobody keeps are given up on the way. What an action does to the watches is said once
(`affectsWatches_act`). A watch that is kept reports the pods that were there when it was opened
and then every matching pod that is published, each once and in order, whatever becomes of the
other watches (`watch_delivers`).
-/

namespace DevfilePush

open Kubernetes (Deployment Pod)

/-! ### Publishing -/

namespace MemoryCluster

/-- The pods that are published for a Deployment, given what came of sending it. -/
def scheduledFor (cluster : MemoryCluster) (deployment : Deployment) :
    Except Failure Deployment → List Pod
  | .error _ => []
  | .ok _ => match cluster.behaviour.scheduledPodPhase with
    | none => []
    | some phase => [ClusterObjects.scheduledPod deployment phase (cluster.objects.podCount + 1)]

/-- The pods that an action publishes: one at most. -/
def published (cluster : MemoryCluster) : ClusterAction → List Pod
  | .addPod pod => [pod]
  | .ask (.createDeployment deployment) =>
    cluster.scheduledFor deployment (client.createDeployment deployment cluster).1
  | .ask (.replaceDeployment deployment) =>
    cluster.scheduledFor deployment (client.replaceDeployment deployment cluster).1
  | _ => []

/-- The pods that are published in the course of some actions. -/
def publishedIn (cluster : MemoryCluster) : List ClusterAction → List Pod
  | [] => []
  | action :: rest => cluster.published action ++ (cluster.act action).publishedIn rest

end MemoryCluster

/-! ### What an action does to the watches -/

/-- What becomes of the watches when the given pods are published. -/
inductive AffectsWatches (action : ClusterAction) (before after : ClusterObjects) :
    List Pod → Prop where
  | leaves (watches : after.watches = before.watches)
      (watchCount : after.watchCount = before.watchCount) : AffectsWatches action before after []
  | opens (selector : String) (pods : List Pod)
      (watches : after.watches = before.watches ++ [⟨before.watchCount, selector, pods, true⟩])
      (watchCount : after.watchCount = before.watchCount + 1) :
      AffectsWatches action before after []
  | publishes (pod : Pod) (watches : after.watches = before.watches.filterMap (·.published? pod))
      (watchCount : after.watchCount = before.watchCount) :
      AffectsWatches action before after [pod]
  | closes (number : Nat) (isClosing : action = .closeWatch number)
      (watches : after.watches = before.watches.map fun watch =>
        if watch.number = number then watch.dropped else watch)
      (watchCount : after.watchCount = before.watchCount) :
      AffectsWatches action before after []

namespace ClusterObjects

variable {objects after : ClusterObjects} {action : ClusterAction}

/-- Storing a Deployment publishes its pod, if it gets one. -/
theorem affectsWatches_storeDeployment (phase : Option String) (deployment : Deployment) :
    AffectsWatches action objects (objects.storeDeployment phase deployment).2
      (match phase with
        | none => []
        | some phase => [scheduledPod deployment phase (objects.podCount + 1)]) := by
  cases phase with
  | none => exact .leaves rfl rfl
  | some phase => exact .publishes _ rfl rfl

end ClusterObjects

namespace MemoryCluster

variable {cluster : MemoryCluster} {action : ClusterAction} {call : Call} {α : Type}

/-- A transaction leaves the watches alone if it does so when it is done. -/
theorem affectsWatches_transact
    {outcome : ClusterBehaviour → ClusterObjects → Except Failure (α × ClusterObjects)}
    (unaffected : ∀ value after, outcome cluster.behaviour cluster.objects = .ok (value, after) →
      AffectsWatches action cluster.objects after []) :
    AffectsWatches action cluster.objects (transact call outcome cluster).2.objects [] := by
  rcases transact_cases cluster call outcome with ⟨failure, run⟩ | ⟨value, after, came, run⟩
  · rw [run]
    exact .leaves rfl rfl
  · rw [run]
    exact unaffected value after came

/-- A transaction that stores a Deployment when it is done. -/
theorem affectsWatches_scheduling {deployment : Deployment}
    {outcome : ClusterBehaviour → ClusterObjects → Except Failure (Deployment × ClusterObjects)}
    (stores : ∀ stored after, outcome cluster.behaviour cluster.objects = .ok (stored, after) →
      after =
        (cluster.objects.storeDeployment cluster.behaviour.scheduledPodPhase deployment).2) :
    AffectsWatches action cluster.objects (transact call outcome cluster).2.objects
      (cluster.scheduledFor deployment (transact call outcome cluster).1) := by
  rcases transact_cases cluster call outcome with ⟨failure, run⟩ | ⟨stored, after, came, run⟩
  · rw [run]
    exact .leaves rfl rfl
  · rw [run, stores stored after came]
    exact ClusterObjects.affectsWatches_storeDeployment _ deployment

theorem affectsWatches_inspect (view : ClusterObjects → α) :
    AffectsWatches action cluster.objects (inspect call view cluster).2.objects [] := by
  rw [inspect_eq]
  refine affectsWatches_transact fun value after came => ?_
  cases came
  exact .leaves rfl rfl

theorem affectsWatches_watchPods (selector : String) :
    AffectsWatches action cluster.objects (client.watchPods selector cluster).2.objects [] := by
  rcases watchPods_cases cluster selector with ⟨failure, run⟩ | ⟨watch, run⟩
  · rw [run]
    exact .leaves rfl rfl
  · rw [run]
    exact .opens selector _ rfl rfl

/-- What any action does to the watches. -/
theorem affectsWatches_act (cluster : MemoryCluster) (action : ClusterAction) :
    AffectsWatches action cluster.objects (cluster.act action).objects
      (cluster.published action) := by
  cases action with
  | addPod pod => exact .publishes pod rfl rfl
  | closeWatch number => exact .closes number rfl rfl rfl
  | behave behaviour => exact .leaves rfl rfl
  | forget => exact .leaves rfl rfl
  | ask request =>
    cases request with
    | listDeployments selector => exact affectsWatches_inspect _
    | getService name => exact affectsWatches_inspect _
    | getClaim name => exact affectsWatches_inspect _
    | listPods selector => exact affectsWatches_inspect _
    | createDeployment deployment =>
      simp only [act, published, ClusterClient.ask, client_createDeployment]
      exact affectsWatches_scheduling fun _ _ created =>
        (ClusterObjects.createDeployment_eq_ok created).2
    | replaceDeployment deployment =>
      simp only [act, published, ClusterClient.ask, client_replaceDeployment]
      exact affectsWatches_scheduling fun _ _ replaced =>
        (ClusterObjects.replaceDeployment_eq_ok replaced).2
    | deleteDeployment name =>
      simp only [act, published, ClusterClient.ask, client_deleteDeployment]
      refine affectsWatches_transact fun _ _ deleted => ?_
      cases ClusterObjects.deleteDeployment_eq_ok deleted
      exact .leaves rfl rfl
    | createService service =>
      simp only [act, published, ClusterClient.ask, client_createService]
      refine affectsWatches_transact fun _ _ created => ?_
      obtain ⟨-, rfl⟩ := ClusterObjects.createService_eq_ok created
      exact .leaves rfl rfl
    | replaceService service =>
      simp only [act, published, ClusterClient.ask, client_replaceService]
      refine affectsWatches_transact fun _ _ replaced => ?_
      obtain ⟨-, rfl⟩ := ClusterObjects.replaceService_eq_ok replaced
      exact .leaves rfl rfl
    | deleteService name =>
      simp only [act, published, ClusterClient.ask, client_deleteService]
      refine affectsWatches_transact fun _ _ deleted => ?_
      cases ClusterObjects.deleteService_eq_ok deleted
      exact .leaves rfl rfl
    | createClaim claim =>
      simp only [act, published, ClusterClient.ask, client_createClaim]
      refine affectsWatches_transact fun _ _ created => ?_
      obtain ⟨-, rfl⟩ := ClusterObjects.createClaim_eq_ok created
      exact .leaves rfl rfl
    | deletePod name =>
      simp only [act, published, ClusterClient.ask, client_deletePod]
      refine affectsWatches_transact fun _ _ deleted => ?_
      cases ClusterObjects.deletePod_eq_ok deleted
      exact .leaves rfl rfl
    | watchPods selector => exact affectsWatches_watchPods selector
    | exec pod container program =>
      change AffectsWatches _ _ (client.execOrFail pod container program cluster).2.objects []
      rw [execOrFail_run, exec_eq]
      exact .leaves rfl rfl

end MemoryCluster

/-! ### Numbers of watches -/

/-- No watch has the number of one that is still to be opened. -/
def ClusterObjects.Numbered (objects : ClusterObjects) : Prop :=
  ∀ watch ∈ objects.watches, watch.number < objects.watchCount

namespace OpenWatch

variable {watch after : OpenWatch} {pod : Pod}

theorem number_of_published? (published : watch.published? pod = some after) :
    after.number = watch.number := by
  unfold published? report? at published
  split at published
  · split at published
    · cases published
      rfl
    · cases published
  · split at published
    · cases published
      rfl
    · cases published

end OpenWatch

section

variable {action : ClusterAction} {before after : ClusterObjects} {pods : List Pod}

theorem AffectsWatches.numbered (affects : AffectsWatches action before after pods)
    (numbered : before.Numbered) : after.Numbered := by
  intro watch mem
  cases affects with
  | leaves watches watchCount =>
    rw [watches] at mem
    rw [watchCount]
    exact numbered watch mem
  | opens selector pods watches watchCount =>
    rw [watches] at mem
    rw [watchCount]
    rcases List.mem_append.mp mem with old | new
    · exact Nat.lt_succ_of_lt (numbered watch old)
    · cases List.mem_singleton.mp new
      exact Nat.lt_succ_self _
  | publishes pod watches watchCount =>
    rw [watches] at mem
    rw [watchCount]
    obtain ⟨old, isOld, published⟩ := List.mem_filterMap.mp mem
    rw [OpenWatch.number_of_published? published]
    exact numbered old isOld
  | closes number isClosing watches watchCount =>
    rw [watches] at mem
    rw [watchCount]
    obtain ⟨old, isOld, rfl⟩ := List.mem_map.mp mem
    have same : (if old.number = number then old.dropped else old).number = old.number := by
      split <;> rfl
    rw [same]
    exact numbered old isOld

end

theorem MemoryCluster.Reachable.numbered {cluster : MemoryCluster}
    (reached : cluster.Reachable) : cluster.objects.Numbered := by
  induction reached with
  | empty phase =>
    intro watch mem
    cases mem
  | step _ step ih =>
    obtain ⟨action, rfl⟩ := step.exists_act
    exact (MemoryCluster.affectsWatches_act _ action).numbered ih

/-! ### Delivery -/

/-- There is one watch of that number. It is kept, and has reported exactly these pods. -/
structure Delivers (number : Nat) (selector : String) (pods : List Pod)
    (objects : ClusterObjects) : Prop where
  watches : objects.watches.filter (·.number = number) = [⟨number, selector, pods, true⟩]
  isOpened : number < objects.watchCount

/-- Publishing a pod does not mix up watches of different numbers. -/
theorem filter_number_published (watches : List OpenWatch) (number : Nat) (pod : Pod) :
    (watches.filterMap (·.published? pod)).filter (·.number = number) =
      (watches.filter (·.number = number)).filterMap (·.published? pod) := by
  rw [List.filter_filterMap, List.filterMap_filter]
  congr 1
  funext watch
  cases published : watch.published? pod with
  | none => simp
  | some after =>
    have same := OpenWatch.number_of_published? published
    by_cases isNumber : watch.number = number
    · simp [Option.filter, same, isNumber]
    · simp [Option.filter, same, isNumber]

/-- Closing a watch does not mix up watches of different numbers either. -/
theorem filter_number_closed (watches : List OpenWatch) {number closed : Nat}
    (other : number ≠ closed) :
    (watches.map fun watch => if watch.number = closed then watch.dropped else watch).filter
        (·.number = number) =
      watches.filter (·.number = number) := by
  rw [List.filter_map]
  have sameNumber : ((fun watch : OpenWatch => decide (watch.number = number)) ∘ fun watch =>
      if watch.number = closed then watch.dropped else watch) =
        fun watch => decide (watch.number = number) := by
    funext watch
    dsimp only [Function.comp]
    split <;> rfl
  rw [sameNumber]
  refine (List.map_congr_left fun watch mem => ?_).trans (List.map_id _)
  have isNumber : watch.number = number := of_decide_eq_true (List.mem_filter.mp mem).2
  have isOpen : ¬ watch.number = closed := isNumber ▸ other
  exact if_neg isOpen

section

variable {action : ClusterAction} {before after : ClusterObjects} {number : Nat}
  {selector : String} {pods published : List Pod}

/-- A watch that an action does not close reports what the action publishes, if it matches, and
nothing else. -/
theorem AffectsWatches.delivers (affects : AffectsWatches action before after published)
    (kept : action ≠ .closeWatch number) (delivers : Delivers number selector pods before) :
    Delivers number selector
      (pods ++ published.filter fun pod => matchesSelector pod.metadata.labels selector)
      after := by
  cases affects with
  | leaves watches watchCount =>
    rw [List.filter_nil, List.append_nil]
    exact ⟨watches ▸ delivers.watches, watchCount ▸ delivers.isOpened⟩
  | opens selector pods watches watchCount =>
    have isNew : ¬ before.watchCount = number := by
      have isOld := delivers.isOpened
      omega
    rw [List.filter_nil, List.append_nil]
    constructor
    case watches =>
      rw [watches, List.filter_append, delivers.watches,
        List.filter_cons_of_neg (by simpa using isNew)]
      rfl
    case isOpened =>
      rw [watchCount]
      exact Nat.lt_succ_of_lt delivers.isOpened
  | publishes pod watches watchCount =>
    constructor
    case watches =>
      rw [watches, filter_number_published, delivers.watches]
      by_cases isMatch : matchesSelector pod.metadata.labels selector = true
      · simp [OpenWatch.published?, OpenWatch.report?, isMatch]
      · simp [OpenWatch.published?, isMatch]
    case isOpened =>
      rw [watchCount]
      exact delivers.isOpened
  | closes closed isClosing watches watchCount =>
    have other : number ≠ closed := by
      rintro rfl
      exact kept isClosing
    rw [List.filter_nil, List.append_nil]
    constructor
    case watches =>
      rw [watches, filter_number_closed _ other]
      exact delivers.watches
    case isOpened =>
      rw [watchCount]
      exact delivers.isOpened

end

namespace MemoryCluster

variable {cluster opened : MemoryCluster} {number : Nat} {selector : String} {pods : List Pod}

/-- In the course of actions that do not close it, a watch reports what they publish. -/
theorem delivers_after (later : List ClusterAction) (kept : .closeWatch number ∉ later)
    (delivers : Delivers number selector pods cluster.objects) :
    Delivers number selector
      (pods ++ (cluster.publishedIn later).filter fun pod =>
        matchesSelector pod.metadata.labels selector)
      (cluster.after later).objects := by
  induction later generalizing cluster pods with
  | nil =>
    rw [publishedIn, List.filter_nil, List.append_nil]
    exact delivers
  | cons action rest ih =>
    obtain ⟨notThis, notRest⟩ := List.ne_and_not_mem_of_not_mem_cons kept
    have reported := (affectsWatches_act cluster action).delivers (Ne.symm notThis) delivers
    rw [publishedIn, List.filter_append, ← List.append_assoc]
    exact ih notRest reported

/-- A watch that has just been opened has reported the pods that are there. -/
theorem delivers_opened {watch : PodWatch} (reached : cluster.Reachable)
    (opens : client.watchPods selector cluster = (.ok watch, opened)) :
    Delivers cluster.objects.watchCount selector
      (cluster.objects.pods.values.filter fun pod => matchesSelector pod.metadata.labels selector)
      opened.objects := by
  rcases watchPods_cases cluster selector with ⟨failure, run⟩ | ⟨other, run⟩
  · rw [run] at opens
    cases opens
  · rw [run] at opens
    cases opens
    constructor
    case watches =>
      have noOlder : cluster.objects.watches.filter
          (·.number = cluster.objects.watchCount) = [] := by
        refine List.filter_eq_nil_iff.mpr fun watch mem isNumber => ?_
        have isOlder := reached.numbered watch mem
        exact absurd (of_decide_eq_true isNumber) (Nat.ne_of_lt isOlder)
      change (cluster.objects.watches ++ [_]).filter _ = _
      rw [List.filter_append, noOlder]
      simp
    case isOpened => exact Nat.lt_succ_self _

/-- From the time it is opened, and as long as it is kept, a watch reports the matching pods that
are there, in the order in which they are stored, and then every matching pod that is published,
in that order. -/
theorem watch_delivers {watch : PodWatch} (reached : cluster.Reachable)
    (opens : client.watchPods selector cluster = (.ok watch, opened))
    (later : List ClusterAction) (kept : .closeWatch cluster.objects.watchCount ∉ later) :
    let isMatch : Pod → Bool := fun pod => matchesSelector pod.metadata.labels selector
    (opened.after later).objects.watches.filter (·.number = cluster.objects.watchCount) =
      [{  number := cluster.objects.watchCount
          selector := selector
          reported := cluster.objects.pods.values.filter isMatch ++
            (opened.publishedIn later).filter isMatch
          isKept := true }] :=
  (delivers_after later kept (delivers_opened reached opens)).watches

/-- Two pods are there, one of them of another component, and two watches. A watch of "web" gets
its pod, the pod of its Deployment, and the pod that is added after the other watches are gone. -/
theorem watch_delivers_sample :
    let web : Labels := .ofList [("app", "web")]
    let db : Labels := .ofList [("app", "db")]
    let deployment : Deployment :=
      { metadata := .named "web" web
        spec := some { template := { metadata := some { labels := some web } } } }
    let cluster := (empty (some "Running")).after
      [.addPod (.named "old" web "Pending"), .addPod (.named "db-0" db "Running"),
        .ask (.watchPods "app=web"), .ask (.watchPods "app=db")]
    let later : List ClusterAction :=
      [.closeWatch 0, .ask (.createDeployment deployment), .addPod (.named "db-0" db "Failed"),
        .ask (.watchPods ""), .closeWatch 1, .addPod (.named "web-1" web "Failed")]
    let opened := cluster.act (.ask (.watchPods "app=web"))
    cluster.objects.watchCount = 2 ∧ .closeWatch 2 ∉ later ∧
      ((opened.after later).objects.watches.filter (·.number = 2)).map (fun watch =>
        watch.reported.map fun pod => (pod.metadata.nameOrEmpty, pod.phase?)) =
          [[("old", some "Pending"), ("web-1", some "Running"), ("web-1", some "Failed")]] := by
  intro web db deployment cluster later opened
  have isThird : cluster.objects.watchCount = 2 := by decide +kernel
  have kept : .closeWatch cluster.objects.watchCount ∉ later := by
    rw [isThird]
    decide
  have reached : cluster.Reachable := (Reachable.empty _).after _
  obtain ⟨watch, opens⟩ : ∃ watch, client.watchPods "app=web" cluster = (.ok watch, opened) :=
    ⟨_, rfl⟩
  have delivers := watch_delivers reached opens later kept
  rw [isThird] at delivers kept
  refine ⟨isThird, kept, ?_⟩
  rw [delivers]
  decide +kernel

end MemoryCluster

end DevfilePush
