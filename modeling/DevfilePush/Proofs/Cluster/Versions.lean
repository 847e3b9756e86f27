import DevfilePush.Proofs.Cluster.Event
import DevfilePush.Proofs.Text.Decimal
import Mathlib.Algebra.Group.Nat.Defs
import Mathlib.Data.List.Nodup

/-!
Versions, and what they are good for.

Writes are numbered through, whatever kind of object they store, and a number is not used again,
not even for an object that is created anew under an old name, until the 64 bits that it has are
used up. So among fewer than `2 ^ 64` writes a version stands for one of them, and what is stored
is the latest write of its place (`Run.accounted`). From this it follows that no update gets lost:
a replacement succeeds only over the very write that it is based on, and of two that are based on
the same version only one can.

A replacement that comes too late is not always in conflict. Where the object has been deleted in
the meantime there is nothing to be in conflict with (`not_conflict_after_deletion`).
-/

namespace DevfilePush.MemoryCluster

/-! ### What is stored and what has been written -/

/-- The objects that events have stored, in order. -/
def writes (events : List ClusterEvent) : List ClusterObject :=
  events.filterMap (·.written?)

/-- An object is what one of the events has stored, and none of those after it has touched
the place of the object. -/
def LatestWrite (events : List ClusterEvent) (object : ClusterObject) : Prop :=
  ∃ earlier write later, events = earlier ++ write :: later ∧ write.written? = some object ∧
    ∀ event ∈ later, ¬ event.Touches object.place

/-- The version of the write with the given number. -/
def versionOf (number : Nat) : Option String :=
  some (toString (UInt64.ofNat number).toNat)

/-- The events account for the objects: their writes are counted and numbered through, and what
is stored in a place is the latest of them. -/
structure Accounted (events : List ClusterEvent) (objects : ClusterObjects) : Prop where
  counted : objects.version = .ofNat (writes events).length
  numbered : (writes events).map (·.version) =
    (List.range (writes events).length).map fun number => versionOf (number + 1)
  latest : ∀ place object, objects.at? place = some object →
    object.place = place ∧ LatestWrite events object

variable {events later : List ClusterEvent} {event : ClusterEvent}
  {object other : ClusterObject} {objects before after : ClusterObjects} {place : Place}
  {version : Option String}

theorem writes_append : writes (events ++ later) = writes events ++ writes later :=
  List.filterMap_append

/-- What has been written stays on record. -/
theorem mem_writes_append (mem : object ∈ writes events) : object ∈ writes (events ++ later) := by
  rw [writes_append]
  exact List.mem_append_left _ mem

theorem writes_snoc (written : event.written? = some object) :
    writes (events ++ [event]) = writes events ++ [object] := by
  simp [writes, written]

/-- There are no more writes in a part of a run. -/
theorem few_of_append (few : (writes (events ++ later)).length < 2 ^ 64) :
    (writes events).length < 2 ^ 64 := by
  rw [writes_append, List.length_append] at few
  omega

/-- Versions repeat themselves after 64 bits, and not before. -/
theorem versionOf_inj {number another : Nat} (small : number < 2 ^ 64)
    (anotherSmall : another < 2 ^ 64) (same : versionOf number = versionOf another) :
    number = another := by
  have same := Text.toString_injective (Option.some.inj same)
  rwa [UInt64.toNat_ofNat_of_lt' small, UInt64.toNat_ofNat_of_lt' anotherSmall] at same

theorem LatestWrite.mem_writes (latest : LatestWrite events object) :
    object ∈ writes events := by
  obtain ⟨earlier, write, later, rfl, written, -⟩ := latest
  rw [writes, List.mem_filterMap]
  exact ⟨write, List.mem_append_right _ List.mem_cons_self, written⟩

/-- What an event stores is the latest write of its place. -/
theorem latestWrite_snoc (written : event.written? = some object) :
    LatestWrite (events ++ [event]) object := by
  refine ⟨events, event, [], rfl, written, ?_⟩
  intro later mem
  cases mem

/-- The latest write stays the latest until its place is touched. -/
theorem LatestWrite.snoc (latest : LatestWrite events object)
    (untouched : ¬ event.Touches object.place) : LatestWrite (events ++ [event]) object := by
  obtain ⟨earlier, write, later, rfl, written, since⟩ := latest
  refine ⟨earlier, write, later ++ [event], by simp, written, fun another mem => ?_⟩
  rcases List.mem_append.mp mem with mem | mem
  · exact since another mem
  · rw [List.mem_singleton.mp mem]
    exact untouched

theorem accounted_empty : Accounted [] .empty where
  counted := rfl
  numbered := rfl
  latest := by
    rintro ⟨kind, name⟩ object stored
    cases kind <;> cases stored

/-- Whatever happens next, it is accounted for. -/
theorem Accounted.step (accounted : Accounted events before)
    (occurs : WritesOrClears before event after) : Accounted (events ++ [event]) after := by
  rcases occurs with ⟨object, written, stores⟩ | clears
  · have next : after.version = .ofNat ((writes events).length + 1) := by
      rw [stores.counted, accounted.counted, UInt64.ofNat_add]
      rfl
    have isNumbered : object.version = versionOf ((writes events).length + 1) := by
      rw [versionOf, ← next, stores.counted]
      exact stores.version
    refine ⟨?_, ?_, fun place found stored => ?_⟩
    · rw [writes_snoc written, List.length_append]
      exact next
    · rw [writes_snoc written, List.length_append, List.map_append, accounted.numbered,
        List.length_singleton, List.range_succ, List.map_append, List.map_singleton,
        List.map_singleton, isNumbered]
    · rw [stores.at?] at stored
      split at stored
      · rename_i isPlace
        obtain rfl := Option.some.inj stored
        exact ⟨isPlace.symm, latestWrite_snoc written⟩
      · rename_i elsewhere
        obtain ⟨rfl, latest⟩ := accounted.latest place found stored
        refine ⟨rfl, latest.snoc ?_⟩
        rintro (isWritten | isCleared)
        · rw [written] at isWritten
          exact elsewhere (Option.some.inj isWritten).symm
        · cases (ClusterEvent.cleared?_eq_none written).symm.trans isCleared
  · have same : writes (events ++ [event]) = writes events := by
      simp [writes, clears.written]
    refine ⟨?_, ?_, fun place found stored => ?_⟩
    · rw [same, clears.counted, accounted.counted]
    · rw [same, accounted.numbered]
    · rw [clears.at?] at stored
      split at stored
      · cases stored
      · rename_i kept
        obtain ⟨rfl, latest⟩ := accounted.latest place found stored
        refine ⟨rfl, latest.snoc ?_⟩
        rintro (isWritten | isCleared)
        · rw [clears.written] at isWritten
          cases isWritten
        · exact kept isCleared

variable {phase : Option String} {cluster next : MemoryCluster}

/-- In every run that begins without objects, the events account for the objects. -/
theorem Run.accounted (run : Run (.empty phase) events cluster) :
    Accounted events cluster.objects := by
  induction run with
  | nil => exact accounted_empty
  | snoc _ occurs ih => exact ih.step occurs.writesOrClears

/-! ### Versions stand for writes -/

/-- No version is given twice. -/
theorem Accounted.nodup (accounted : Accounted events objects)
    (few : (writes events).length < 2 ^ 64) : ((writes events).map (·.version)).Nodup := by
  rw [accounted.numbered]
  refine List.Nodup.map_on (fun first mem second otherMem same => ?_) List.nodup_range
  have inRange := List.mem_range.mp mem
  have otherInRange := List.mem_range.mp otherMem
  exact Nat.succ.inj (versionOf_inj (by omega) (by omega) same)

/-- What has the same version is the same write. -/
theorem Accounted.eq_of_version_eq (accounted : Accounted events objects)
    (few : (writes events).length < 2 ^ 64) (mem : object ∈ writes events)
    (otherMem : other ∈ writes events) (same : object.version = other.version) : object = other :=
  List.inj_on_of_nodup_map (accounted.nodup few) mem otherMem same

/-- Objects in different places have different versions. -/
theorem Accounted.place_eq (accounted : Accounted events objects)
    (few : (writes events).length < 2 ^ 64) {place' : Place}
    (stored : objects.at? place = some object) (stored' : objects.at? place' = some other)
    (same : object.version = other.version) : place = place' := by
  obtain ⟨rfl, latest⟩ := accounted.latest _ _ stored
  obtain ⟨rfl, latest'⟩ := accounted.latest _ _ stored'
  rw [accounted.eq_of_version_eq few latest.mem_writes latest'.mem_writes same]

/-- What is written next has no version that has been given. -/
theorem Accounted.version_ne (accounted : Accounted (events ++ [event]) objects)
    (few : (writes (events ++ [event])).length < 2 ^ 64) (written : event.written? = some object)
    (mem : other ∈ writes events) : object.version ≠ other.version := by
  have distinct := accounted.nodup few
  rw [writes_snoc written, List.map_append, List.nodup_append] at distinct
  intro same
  exact distinct.2.2 _ (List.mem_map_of_mem mem) _ (List.mem_singleton_self _) same.symm

/-! ### Spent versions -/

/-- A version that has been given, and that no stored object has any more. -/
def Spent (events : List ClusterEvent) (objects : ClusterObjects) (version : Option String) :
    Prop :=
  (∃ object ∈ writes events, object.version = version) ∧
    ∀ place object, objects.at? place = some object → object.version ≠ version

/-- A spent version does not come back. -/
theorem Spent.step (spent : Spent events before version)
    (occurs : WritesOrClears before event after) (accounted : Accounted (events ++ [event]) after)
    (few : (writes (events ++ [event])).length < 2 ^ 64) :
    Spent (events ++ [event]) after version := by
  obtain ⟨⟨given, mem, rfl⟩, gone⟩ := spent
  refine ⟨⟨given, mem_writes_append mem, rfl⟩, fun place found stored => ?_⟩
  rcases occurs with ⟨object, written, stores⟩ | clears
  · rw [stores.at?] at stored
    split at stored
    · obtain rfl := Option.some.inj stored
      exact accounted.version_ne few written mem
    · exact gone place found stored
  · rw [clears.at?] at stored
    split at stored
    · cases stored
    · exact gone place found stored

theorem Spent.run (spent : Spent events cluster.objects version)
    (begins : Run (.empty phase) events cluster) (run : Run cluster later next)
    (few : (writes (events ++ later)).length < 2 ^ 64) :
    Spent (events ++ later) next.objects version := by
  induction run with
  | nil =>
    rw [List.append_nil]
    exact spent
  | snoc run occurs ih =>
    rw [← List.append_assoc] at few ⊢
    have accounted := ((begins.append run).snoc occurs).accounted
    exact (ih (few_of_append few)).step occurs.writesOrClears accounted few

/-! ### Replacements -/

/-- Replacing the object is made to fail. -/
def MadeToFail (cluster : MemoryCluster) (sent : ClusterObject) (failure : Failure) : Prop :=
  sent.kind.replacement?.bind cluster.injected? = some failure

variable {sent stored : ClusterObject} {answer : Except Failure ClusterObject}

/-- A replacement ends in one of three ways. -/
theorem Occurs.replace_cases (occurs : Occurs cluster (.replace sent answer) next) :
    (∃ failure, answer = .error failure ∧ cluster.MadeToFail sent failure) ∨
      (∃ failure, answer = .error failure ∧
        sent.refusal? (cluster.objects.at? sent.place) = some failure) ∨
      answer = .ok (sent.stamped cluster.objects.nextVersion) ∧
        sent.refusal? (cluster.objects.at? sent.place) = none := by
  rw [occurs.replace_answer, replacementAnswer, ClusterObject.replacementAnswer]
  cases injected : sent.kind.replacement?.bind cluster.injected? with
  | some failure => exact .inl ⟨failure, rfl, injected⟩
  | none =>
    refine .inr ?_
    cases refused : sent.refusal? (cluster.objects.at? sent.place) with
    | some failure => exact .inl ⟨failure, rfl, rfl⟩
    | none => exact .inr ⟨rfl, rfl⟩

/-- What replaces an object is stored in its place, and the object has the version that the
replacement is based on. -/
theorem Occurs.replaced (occurs : Occurs cluster (.replace sent (.ok stored)) next) :
    stored.place = sent.place ∧ ∃ live, cluster.objects.at? sent.place = some live ∧
      live.version = sent.version := by
  rcases occurs.replace_cases with ⟨failure, isError, -⟩ | ⟨failure, isError, -⟩ | ⟨isOk, accepted⟩
  · cases isError
  · cases isError
  · cases isOk
    exact ⟨ClusterObject.place_stamped, ClusterObject.exists_live_of_refusal?_eq_none accepted⟩

/-- A replacement uses up the version that it is based on. -/
theorem Run.spent_of_replaced (run : Run (.empty phase) events cluster)
    (occurs : Occurs cluster (.replace sent (.ok stored)) next)
    (few : (writes (events ++ [.replace sent (.ok stored)])).length < 2 ^ 64) :
    Spent (events ++ [.replace sent (.ok stored)]) next.objects sent.version := by
  have accounted := run.accounted
  obtain ⟨samePlace, live, isLive, based⟩ := occurs.replaced
  obtain ⟨-, latest⟩ := accounted.latest _ _ isLive
  refine ⟨⟨live, mem_writes_append latest.mem_writes, based⟩, ?_⟩
  intro place found isFound
  rcases occurs.writesOrClears with ⟨object, written, stores⟩ | clears
  · cases written
    rw [stores.at?] at isFound
    split at isFound
    · obtain rfl := Option.some.inj isFound
      rw [← based]
      exact (run.snoc occurs).accounted.version_ne few rfl latest.mem_writes
    · rename_i elsewhere
      intro same
      refine elsewhere ?_
      rw [samePlace]
      exact accounted.place_eq (few_of_append few) isFound isLive (same.trans based.symm)
  · cases clears.written

/-- A replacement that is based on a spent version fails: it is in conflict with what is
there now, unless there is nothing or it is made to fail. -/
theorem Occurs.refused_of_spent (occurs : Occurs cluster (.replace sent answer) next)
    (spent : Spent events cluster.objects sent.version) :
    ∃ failure, answer = .error failure ∧ (cluster.MadeToFail sent failure ∨
      cluster.objects.at? sent.place = none ∧ failure = sent.missing ∨
      cluster.objects.at? sent.place ≠ none ∧ failure = sent.conflict) := by
  rcases occurs.replace_cases with ⟨failure, isError, made⟩ | ⟨failure, isError, refused⟩ |
    ⟨-, accepted⟩
  · exact ⟨failure, isError, .inl made⟩
  · refine ⟨failure, isError, .inr ?_⟩
    cases there : cluster.objects.at? sent.place with
    | none =>
      rw [there] at refused
      exact .inl ⟨rfl, (Option.some.inj refused).symm⟩
    | some live =>
      have differs : live.version ≠ sent.version := spent.2 _ live there
      rw [there, ClusterObject.refusal?_of_version_ne differs] at refused
      exact .inr ⟨nofun, (Option.some.inj refused).symm⟩
  · obtain ⟨live, isLive, based⟩ := ClusterObject.exists_live_of_refusal?_eq_none accepted
    exact absurd based (spent.2 _ live isLive)

/-- A version that has been given, and that an object has later on, that object has had ever
since. -/
theorem Run.at?_of_later (run : Run (.empty phase) events cluster) (goesOn : Run cluster later next)
    (few : (writes (events ++ later)).length < 2 ^ 64)
    (given : ∃ object ∈ writes events, object.version = version) {live : ClusterObject}
    (isLive : next.objects.at? place = some live) (same : live.version = version) :
    cluster.objects.at? place = some live := by
  have accountedLater := (run.append goesOn).accounted
  obtain ⟨rfl, latest⟩ := accountedLater.latest _ _ isLive
  have stillThere : ∃ place found, cluster.objects.at? place = some found ∧
      found.version = version := by
    by_contra absent
    have spent : Spent events cluster.objects version :=
      ⟨given, fun place found isFound sameVersion => absent ⟨place, found, isFound, sameVersion⟩⟩
    exact (spent.run run goesOn few).2 _ live isLive same
  obtain ⟨place, found, isFound, sameVersion⟩ := stillThere
  obtain ⟨rfl, foundLatest⟩ := run.accounted.latest _ _ isFound
  rw [← accountedLater.eq_of_version_eq few (mem_writes_append foundLatest.mem_writes)
    latest.mem_writes (sameVersion.trans same.symm)]
  exact isFound

/-! ### No update is lost -/

/-- No update is lost, as long as there are fewer than `2 ^ 64` writes. No two of these have the
same version, so that the stored objects differ in theirs. A replacement succeeds only over the
latest write of its place, and only if that write has given the version that the replacement is
based on. Of two replacements of an object that are based on one version one at most succeeds. If
it is the first, then the second is in conflict, unless the object has been deleted or the second
is made to fail; if it is the second, then the first was made to fail or has tried to change an
address. -/
theorem no_lost_update (run : Run (.empty phase) events cluster)
    (few : (writes events).length < 2 ^ 64) :
    ((writes events).map (·.version)).Nodup ∧
    (∀ place place' object object', cluster.objects.at? place = some object →
      cluster.objects.at? place' = some object' → object.version = object'.version →
      place = place') ∧
    (∀ sent stored next, Occurs cluster (.replace sent (.ok stored)) next →
      ∃ live, cluster.objects.at? sent.place = some live ∧ live.place = sent.place ∧
        live.version = sent.version ∧ LatestWrite events live) ∧
    ∀ ⦃first answer after between later second lateAnswer next⦄,
      Occurs cluster (.replace first answer) after → Run after between later →
      (writes (events ++ .replace first answer :: between)).length < 2 ^ 64 →
      Occurs later (.replace second lateAnswer) next →
      second.place = first.place → second.version = first.version →
      (∃ object ∈ writes events, object.version = first.version) →
      (∀ stored, answer = .ok stored → ∃ failure, lateAnswer = .error failure ∧
        (later.MadeToFail second failure ∨
          later.objects.at? second.place = none ∧ failure = second.missing ∨
          later.objects.at? second.place ≠ none ∧ failure = second.conflict)) ∧
      ∀ stored, lateAnswer = .ok stored → ∃ failure, answer = .error failure ∧
        (cluster.MadeToFail first failure ∨
          ∃ live, cluster.objects.at? first.place = some live ∧ live.version = first.version ∧
            live.address? ≠ first.address? ∧ failure = first.moved) := by
  have accounted := run.accounted
  refine ⟨accounted.nodup few, fun _ _ _ _ => accounted.place_eq few, ?_, ?_⟩
  · intro sent stored next occurs
    obtain ⟨-, live, isLive, based⟩ := occurs.replaced
    obtain ⟨isPlace, latest⟩ := accounted.latest _ _ isLive
    exact ⟨live, isLive, isPlace, based, latest⟩
  · intro first answer after between later second lateAnswer next begins goesOn stillFew ends
      samePlace sameVersion given
    have tooLate (stored : ClusterObject) (isOk : answer = .ok stored) :
        ∃ failure, lateAnswer = .error failure ∧ (later.MadeToFail second failure ∨
          later.objects.at? second.place = none ∧ failure = second.missing ∨
          later.objects.at? second.place ≠ none ∧ failure = second.conflict) := by
      subst isOk
      rw [List.append_cons] at stillFew
      have spent := (run.spent_of_replaced begins (few_of_append stillFew)).run (run.snoc begins)
        goesOn stillFew
      rw [← sameVersion] at spent
      exact ends.refused_of_spent spent
    refine ⟨tooLate, fun lateStored isLateOk => ?_⟩
    subst isLateOk
    -- What the second replaces was there for the first already, so that nothing but its
    -- address was in the way.
    obtain ⟨-, live, isLive, based⟩ := ends.replaced
    have goesOnFrom := (Run.nil.snoc begins).append goesOn
    have wasLive := run.at?_of_later goesOnFrom stillFew given isLive (based.trans sameVersion)
    rw [samePlace] at wasLive
    rcases begins.replace_cases with ⟨failure, isError, made⟩ | ⟨failure, isError, refused⟩ |
      ⟨isOk, -⟩
    · exact ⟨failure, isError, .inl made⟩
    · rw [wasLive] at refused
      obtain ⟨differs, isMoved⟩ :=
        ClusterObject.refusal?_of_version_eq (based.trans sameVersion) refused
      exact ⟨failure, isError, .inr ⟨live, wasLive, based.trans sameVersion, differs, isMoved⟩⟩
    · obtain ⟨failure, isError, -⟩ := tooLate _ isOk
      cases isError

/-- A Deployment called `web`, based on the given version. -/
def webDeployment (version : Option String) : Kubernetes.Deployment :=
  { metadata := { name := some "web", resourceVersion := version } }

/-- The Deployment as it has been created, and as it has then been replaced. -/
def webCreated : MemoryCluster :=
  (client.createDeployment (webDeployment none) (.empty none)).2

def webReplaced : MemoryCluster :=
  (client.replaceDeployment (webDeployment (some "1")) webCreated).2

theorem occurs_created :
    Occurs (.empty none)
      (.create (.deployment (webDeployment none)) (.ok (.deployment (webDeployment (some "1")))))
      webCreated :=
  .createDeployment (.empty none) (webDeployment none)

theorem occurs_replaced :
    Occurs webCreated
      (.replace (.deployment (webDeployment (some "1")))
        (.ok (.deployment (webDeployment (some "2")))))
      webReplaced :=
  .replaceDeployment webCreated (webDeployment (some "1"))

/-- Of two replacements over the first version the second is in conflict. -/
theorem no_lost_update_sample :
    ∃ answer next, Occurs webReplaced
        (.replace (.deployment (webDeployment (some "1"))) answer) next ∧
      answer = .error (ClusterObject.deployment (webDeployment (some "1"))).conflict := by
  have again := Occurs.replaceDeployment webReplaced (webDeployment (some "1"))
  refine ⟨_, _, again, ?_⟩
  obtain ⟨-, -, -, race⟩ := no_lost_update (Run.nil.snoc occurs_created) (by decide)
  have given : ∃ object ∈ writes [ClusterEvent.create (.deployment (webDeployment none))
      (.ok (.deployment (webDeployment (some "1"))))],
      object.version = (ClusterObject.deployment (webDeployment (some "1"))).version :=
    ⟨_, List.mem_singleton_self _, rfl⟩
  obtain ⟨failure, isError, cause⟩ :=
    (race occurs_replaced .nil (by decide) again rfl rfl given).1 _ rfl
  rw [isError]
  rcases cause with made | ⟨absent, -⟩ | ⟨-, isConflict⟩
  · cases made
  · cases absent
  · rw [isConflict]

/-- What has been deleted in the meantime is missing, and not in conflict: not every
replacement that comes too late is told so by a conflict. -/
theorem not_conflict_after_deletion :
    ¬ ∀ (phase : Option String) (events between : List ClusterEvent)
      (cluster after later next : MemoryCluster) (first stored second : ClusterObject)
      (answer : Except Failure ClusterObject),
      Run (.empty phase) events cluster →
      (∃ live, cluster.objects.at? first.place = some live ∧ live.version = first.version) →
      Occurs cluster (.replace first (.ok stored)) after → Run after between later →
      (writes (events ++ .replace first (.ok stored) :: between)).length < 2 ^ 64 →
      later.behaviour.IsCalm → Occurs later (.replace second answer) next →
      second.place = first.place → second.version = first.version →
      answer = .error second.conflict := by
  intro claim
  have deleted := Occurs.deleteDeployment webReplaced "web"
  have again := Occurs.replaceDeployment (client.deleteDeployment "web" webReplaced).2
    (webDeployment (some "1"))
  have told := claim none _ _ _ _ _ _ _ _ _ _ (Run.nil.snoc occurs_created) ⟨_, rfl, rfl⟩
    occurs_replaced (Run.nil.snoc deleted) (by decide) (fun _ => rfl) again rfl rfl
  cases told

end DevfilePush.MemoryCluster
