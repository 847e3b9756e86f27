import DevfilePush.Proofs.Naming.Allocator

/-!
What is handed out, one request after the other.

An allocator starts with no name in use and is asked to reserve names and to hand names out, as
often as one likes. Each request takes one name, so the names in use are those that were taken
(`used_perform`), and a name that is handed out is the first candidate that was not taken before
(`allotted_of_history`). This needs every search to end. A search ends early if candidates are
different (`firstFree?_of_nodup`); where hashes collide it may take longer, or go on for ever.
-/

namespace DevfilePush.Naming.Allocator

/-- What an allocator is asked for. -/
inductive Request where
  | reserve (name : String)
  | allocate (full : String)
  deriving DecidableEq, Repr

/-- A request, and the name that it has taken. -/
structure Taking where
  request : Request
  name : String
  deriving DecidableEq, Repr

/-- The name that a request takes. -/
def Request.taken (hash : String → String) (names : Allocator) : Request → String
  | .reserve name => name
  | .allocate full => (names.allocate hash full).1

/-- The names in use after a request. -/
def Request.perform (hash : String → String) (names : Allocator) : Request → Allocator
  | .reserve name => names.reserve name
  | .allocate full => (names.allocate hash full).2

/-- What is taken by a list of requests, one after the other. -/
def history (hash : String → String) : Allocator → List Request → List Taking
  | _, [] => []
  | names, request :: rest =>
    ⟨request, request.taken hash names⟩ :: history hash (request.perform hash names) rest

/-- Every search for a name that is asked for ends. -/
def Ends (hash : String → String) : Allocator → List Request → Prop
  | _, [] => True
  | names, request :: rest =>
    (∀ full, request = .allocate full → ∃ name, search hash names full 0 = some name) ∧
      Ends hash (request.perform hash names) rest

/-- The name is handed out for `full`, those in `taken` having been taken before. -/
structure Allotted (hash : String → String) (taken : List String) (full name : String) : Prop where
  /-- It is the first candidate that has not been taken. -/
  first : ∃ index, FirstFree hash taken full 0 index ∧ candidate hash full index = name
  short : name.length ≤ maxLength
  /-- It is how the full name begins, perhaps with a dash and a hash after it. -/
  form : name.toList <+: full.toList ∨
    ∃ stem text, stem <+: full.toList ∧ name.toList = stem ++ '-' :: (hash text).toList

/-- The number of names in use. A name that was reserved twice counts once. -/
def count (names : Allocator) : Nat :=
  names.used.dedup.length

variable {hash : String → String} {names : Allocator} {used taken : List String}
  {requests : List Request} {full name : String} {index : Nat}

/-! ### One name -/

/-- Which candidate is the first free one depends on which names are in use, not on their order. -/
theorem FirstFree.of_same (first : FirstFree hash used full 0 index)
    (same : ∀ name, name ∈ used ↔ name ∈ taken) : FirstFree hash taken full 0 index where
  reached := first.reached
  free isTaken := first.free ((same _).mpr isTaken)
  passed earlier reached before := (same _).mp (first.passed earlier reached before)

theorem Allotted.of_same (allotted : Allotted hash used full name)
    (same : ∀ name, name ∈ used ↔ name ∈ taken) : Allotted hash taken full name := by
  obtain ⟨index, first, isName⟩ := allotted.first
  exact ⟨⟨index, first.of_same same, isName⟩, allotted.short, allotted.form⟩

theorem withSuffix_form (suffix : String) (limit : Nat) : ∃ stem, stem <+: full.toList ∧
    (withSuffix full suffix limit).toList = stem ++ '-' :: suffix.toList :=
  ⟨_, dropDashes_take_isPrefix full.toList _, String.toList_ofList⟩

theorem candidate_form (hash : String → String) (full : String) (index : Nat) :
    (candidate hash full index).toList <+: full.toList ∨ ∃ stem text, stem <+: full.toList ∧
      (candidate hash full index).toList = stem ++ '-' :: (hash text).toList := by
  match index with
  | 0 => exact .inl toList_truncate_isPrefix
  | 1 =>
    obtain ⟨stem, begins, isCandidate⟩ := withSuffix_form (hash full) maxLength
    exact .inr ⟨stem, full, begins, isCandidate⟩
  | number + 2 =>
    obtain ⟨stem, begins, isCandidate⟩ :=
      withSuffix_form (hash (full ++ "#" ++ toString (number + 1))) maxLength
    exact .inr ⟨stem, _, begins, isCandidate⟩

theorem allotted_freshName (eight : ∀ text, (hash text).length = 8)
    (ends : ∃ name, search hash names full 0 = some name) :
    Allotted hash names.used full (freshName hash names full) := by
  obtain ⟨name, found⟩ := ends
  obtain ⟨index, first, -⟩ := search_eq_some_iff.mp found
  have short : ∀ text, (hash text).length < maxLength :=
    fun text => (eight text).trans_lt (by decide)
  rw [freshName_of_firstFree first]
  exact ⟨⟨index, first, rfl⟩, length_candidate_le short index, candidate_form hash full index⟩

/-- A search ends within one candidate more than there are names in use if these candidates are
different. -/
theorem firstFree?_of_nodup
    (distinct : ((List.range (names.count + 1)).map (candidate hash full)).Nodup) :
    firstFree? hash names full (names.count + 1) 0 = some (freshName hash names full) ∧
      search hash names full 0 = some (freshName hash names full) := by
  obtain ⟨index, inRange, free⟩ := exists_free_of_nodup distinct (Nat.lt_succ_self names.count)
  obtain ⟨first, bound, isFirst⟩ := exists_firstFree (Nat.zero_le index) free
  rw [freshName_of_firstFree isFirst]
  exact ⟨firstFree?_eq_some_iff.mpr ⟨first, by omega, isFirst, rfl⟩,
    search_eq_some_iff.mpr ⟨first, isFirst, rfl⟩⟩

/-! ### All names -/

/-- Whatever is asked for, the name that it takes is in use from then on. -/
theorem used_perform (request : Request) :
    (request.perform hash names).used = request.taken hash names :: names.used := by
  cases request <;> rfl

/-- In a history, each name that is handed out is the first candidate that was not taken before. -/
theorem allotted_of_history (eight : ∀ text, (hash text).length = 8)
    (ends : Ends hash names requests) {before after : List Taking}
    (isPlace : history hash names requests = before ++ ⟨.allocate full, name⟩ :: after) :
    Allotted hash (before.map (·.name) ++ names.used) full name := by
  induction requests generalizing names before with
  | nil => cases before <;> cases isPlace
  | cons request rest ih =>
    obtain ⟨found, ends⟩ := ends
    cases before with
    | nil =>
      obtain ⟨isFirst, -⟩ := List.cons.inj isPlace
      obtain ⟨rfl, rfl⟩ := Taking.mk.inj isFirst
      exact allotted_freshName eight (found full rfl)
    | cons earlier before =>
      obtain ⟨rfl, isLater⟩ := List.cons.inj isPlace
      refine (ih ends isLater).of_same fun other => ?_
      rw [used_perform, List.map_cons]
      simp only [List.mem_append, List.mem_cons]
      tauto

/-- A name that is handed out later is not in use at first. -/
theorem notMem_of_mem_history (mem : ⟨.allocate full, name⟩ ∈ history hash names requests) :
    name ∉ names.used := by
  induction requests generalizing names with
  | nil => cases mem
  | cons request rest ih =>
    rcases List.mem_cons.mp mem with isFirst | mem
    · obtain ⟨rfl, rfl⟩ := Taking.mk.inj isFirst
      exact freshName_notMem hash names full
    · have later := ih mem
      rw [used_perform] at later
      exact fun isUsed => later (List.mem_cons_of_mem _ isUsed)

/-- A name that is handed out differs from all names that were taken before it. -/
theorem pairwise_history : (history hash names requests).Pairwise fun earlier later =>
    ∀ full, later.request = .allocate full → later.name ≠ earlier.name := by
  induction requests generalizing names with
  | nil => exact .nil
  | cons request rest ih =>
    refine .cons (fun later mem full isAllocation same => ?_) ih
    obtain ⟨laterRequest, laterName⟩ := later
    obtain rfl : laterRequest = .allocate full := isAllocation
    refine notMem_of_mem_history mem ?_
    rw [used_perform]
    exact List.mem_cons.mpr (.inl same)

/-- From the beginning on, with any requests for which the searches end, each name that is handed
out is the first candidate that was taken by no request before, fits a label, and is made of the
beginning of its full name; it is different from all names that were handed out or reserved before.
A search ends within one candidate more than there are names in use if these are different. -/
theorem history_spec (eight : ∀ text, (hash text).length = 8) :
    (∀ requests, Ends hash .empty requests →
      (∀ before full name after,
        history hash .empty requests = before ++ ⟨.allocate full, name⟩ :: after →
          Allotted hash (before.map (·.name)) full name) ∧
      (history hash .empty requests).Pairwise fun earlier later =>
        ∀ full, later.request = .allocate full → later.name ≠ earlier.name) ∧
    ∀ (names : Allocator) full,
      ((List.range (names.count + 1)).map (candidate hash full)).Nodup →
        firstFree? hash names full (names.count + 1) 0 = some (names.allocate hash full).1 ∧
          search hash names full 0 = some (names.allocate hash full).1 := by
  refine ⟨fun requests ends => ⟨fun before full name after isPlace => ?_, pairwise_history⟩,
    fun names full distinct => firstFree?_of_nodup distinct⟩
  have allotted := allotted_of_history eight ends isPlace
  rwa [show Allocator.empty.used = [] from rfl, List.append_nil] at allotted

/-- A hash that takes the same value twice for candidates of "web". -/
def colliding (text : String) : String :=
  if text = "web" ∨ text = "web#1" then "00000000" else "11111111"

/-- A search that ends, but not within one candidate more than there are names in use: the third
candidate is the second one again. -/
theorem history_spec_colliding :
    let requests : List Request := [.reserve "web", .allocate "web", .allocate "web"]
    Ends colliding .empty requests ∧
      history colliding .empty requests =
        [⟨.reserve "web", "web"⟩, ⟨.allocate "web", "web-00000000"⟩,
          ⟨.allocate "web", "web-11111111"⟩] ∧
      Allotted colliding ["web", "web-00000000"] "web" "web-11111111" ∧
      ((List.range 2).map (candidate colliding "web")).Nodup ∧
      search colliding ⟨["web", "web"]⟩ "web" 0 = some "web-00000000" := by
  intro requests
  have eight : ∀ text, (colliding text).length = 8 := by
    intro text
    unfold colliding
    split <;> rfl
  have second : freshName colliding ⟨["web"]⟩ "web" = "web-00000000" := by decide +kernel
  have isFirst : FirstFree colliding ["web-00000000", "web"] "web" 0 3 := by
    refine ⟨Nat.zero_le 3, by decide +kernel, fun earlier _ before => ?_⟩
    have passed : ∀ earlier < 3, candidate colliding "web" earlier ∈ ["web-00000000", "web"] := by
      decide +kernel
    exact passed earlier before
  have third : freshName colliding ⟨["web-00000000", "web"]⟩ "web" = "web-11111111" := by
    rw [freshName_of_firstFree isFirst]
    decide +kernel
  have ends : Ends colliding .empty requests := by
    refine ⟨nofun, fun full isFull => ?_, fun full isFull => ?_, trivial⟩
    · cases isFull
      exact exists_search_iff.mpr ⟨1, by decide +kernel⟩
    · cases isFull
      exact exists_search_iff.mpr ⟨3, by decide +kernel⟩
  have taken : history colliding .empty requests =
      [⟨.reserve "web", "web"⟩, ⟨.allocate "web", "web-00000000"⟩,
        ⟨.allocate "web", "web-11111111"⟩] := by
    show [_, Taking.mk _ (freshName colliding ⟨["web"]⟩ "web"),
      Taking.mk _ (freshName colliding ⟨[freshName colliding ⟨["web"]⟩ "web", "web"]⟩ "web")] = _
    rw [second, third]
    rfl
  have distinct : ((List.range 2).map (candidate colliding "web")).Nodup := by decide +kernel
  obtain ⟨histories, searches⟩ := history_spec eight
  have allotted := (histories requests ends).1
    [⟨.reserve "web", "web"⟩, ⟨.allocate "web", "web-00000000"⟩] "web" "web-11111111" [] taken
  have found := (searches ⟨["web", "web"]⟩ "web" distinct).2
  refine ⟨ends, taken, allotted, distinct, found.trans ?_⟩
  decide +kernel

end DevfilePush.Naming.Allocator
