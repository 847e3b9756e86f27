import DevfilePush.Naming.Allocator
import DevfilePush.Proofs.Naming.Label
import DevfilePush.Proofs.Text.Decimal
import Mathlib.Algebra.Group.Nat.Defs
import Mathlib.Data.List.Dedup
import Mathlib.Data.List.Nodup
import Mathlib.Data.List.Perm.Subperm
import Mathlib.Data.Nat.Find
import Mathlib.Tactic.Push

/-!
What is handed out.

A search gives the first free candidate (`search_eq_some_iff`), and it ends exactly if some
candidate is free (`exists_search_iff`). Of more different candidates than there are names in use
one is free (`exists_free_of_nodup`), so it ends early if candidates are different. What is handed
out is the first free candidate; where there is none, it is one of the numbers up to the number of
names in use, of which different ones make different names (`freshName_cases`, `numbered_spec`).
-/

namespace DevfilePush.Naming.Allocator

variable {hash : String → String} {names : Allocator} {used : List String} {full name : String}
  {budget start index : Nat}

/-! ### The first free candidate -/

/-- Of the candidates from number `start` on, the one with number `index` is the first that is not
in use. -/
structure FirstFree (hash : String → String) (used : List String) (full : String)
    (start index : Nat) : Prop where
  reached : start ≤ index
  free : candidate hash full index ∉ used
  passed : ∀ earlier, start ≤ earlier → earlier < index → candidate hash full earlier ∈ used

theorem FirstFree.unique {other : Nat} (first : FirstFree hash used full start index)
    (second : FirstFree hash used full start other) : index = other := by
  rcases Nat.lt_trichotomy index other with before | same | after
  · exact absurd (second.passed index first.reached before) first.free
  · exact same
  · exact absurd (first.passed other second.reached after) second.free

/-- Where a candidate is free, one is the first. -/
theorem exists_firstFree (reached : start ≤ index) (free : candidate hash full index ∉ used) :
    ∃ first ≤ index, FirstFree hash used full start first := by
  have isFree : ∃ index, start ≤ index ∧ candidate hash full index ∉ used := ⟨index, reached, free⟩
  obtain ⟨firstReached, firstFree⟩ := Nat.find_spec isFree
  refine ⟨Nat.find isFree, Nat.find_min' isFree ⟨reached, free⟩, firstReached, firstFree, ?_⟩
  intro earlier isReached before
  by_contra earlierFree
  exact Nat.find_min isFree before ⟨isReached, earlierFree⟩

/-- A candidate in use is passed over. -/
theorem firstFree_succ_iff (inUse : candidate hash full start ∈ used) :
    FirstFree hash used full (start + 1) index ↔ FirstFree hash used full start index := by
  constructor
  · rintro ⟨reached, free, passed⟩
    refine ⟨Nat.le_of_succ_le reached, free, fun earlier isReached before => ?_⟩
    rcases Nat.eq_or_lt_of_le isReached with rfl | isReached
    · exact inUse
    · exact passed earlier isReached before
  · rintro ⟨reached, free, passed⟩
    have distinct : start ≠ index := fun same => free (same ▸ inUse)
    exact ⟨Nat.lt_of_le_of_ne reached distinct, free,
      fun earlier isReached => passed earlier (Nat.le_of_succ_le isReached)⟩

theorem firstFree_start (free : candidate hash full start ∉ used) :
    FirstFree hash used full start start :=
  ⟨Nat.le_refl start, free, fun _ isReached before => absurd isReached (Nat.not_le.mpr before)⟩

/-- A search with a budget gives the first free candidate if it lies within the budget. -/
theorem firstFree?_eq_some_iff : firstFree? hash names full budget start = some name ↔
    ∃ index < start + budget, FirstFree hash names.used full start index ∧
      candidate hash full index = name := by
  induction budget generalizing start with
  | zero =>
    refine iff_of_false nofun ?_
    rintro ⟨index, before, first, -⟩
    exact Nat.not_le.mpr before first.reached
  | succ budget ih =>
    rw [firstFree?]
    split
    · rename_i inUse
      simp only [ih, firstFree_succ_iff inUse, Nat.add_right_comm start 1, Nat.add_assoc]
    · rename_i free
      constructor
      · rintro ⟨⟩
        exact ⟨start, by omega, firstFree_start free, rfl⟩
      · rintro ⟨index, -, first, rfl⟩
        rw [first.unique (firstFree_start free)]

/-- A search gives the first free candidate. -/
theorem search_eq_some_iff : search hash names full start = some name ↔
    ∃ index, FirstFree hash names.used full start index ∧ candidate hash full index = name := by
  constructor
  · -- Whatever a search gives, it gives after finitely many steps: the induction is on these.
    refine search.partial_correctness hash names full
      (fun start name => ∃ index, FirstFree hash names.used full start index ∧
        candidate hash full index = name) (fun rest ih start name found => ?_) start name
    dsimp only at found
    split at found
    · rename_i inUse
      obtain ⟨index, first, isName⟩ := ih (start + 1) name found
      exact ⟨index, (firstFree_succ_iff inUse).mp first, isName⟩
    · rename_i free
      exact ⟨start, firstFree_start free, Option.some.inj found⟩
  · rintro ⟨index, first, rfl⟩
    obtain ⟨distance, rfl⟩ := Nat.exists_eq_add_of_le first.reached
    induction distance generalizing start with
    | zero =>
      rw [search]
      exact if_neg first.free
    | succ distance ih =>
      have inUse := first.passed start (Nat.le_refl start) (by omega)
      have next := (firstFree_succ_iff inUse).mpr first
      rw [search, if_pos inUse]
      rw [show start + (distance + 1) = start + 1 + distance by omega] at next ⊢
      exact ih next

theorem exists_search_iff : (∃ name, search hash names full 0 = some name) ↔
    ∃ index, candidate hash full index ∉ names.used := by
  constructor
  · rintro ⟨name, found⟩
    obtain ⟨index, first, -⟩ := search_eq_some_iff.mp found
    exact ⟨index, first.free⟩
  · rintro ⟨index, free⟩
    obtain ⟨first, -, isFirst⟩ := exists_firstFree (Nat.zero_le index) free
    exact ⟨_, search_eq_some_iff.mpr ⟨first, isFirst, rfl⟩⟩

/-- Of more different candidates than there are names in use, one is free. -/
theorem exists_free_of_nodup {attempt : Nat → String} {count : Nat}
    (distinct : ((List.range count).map attempt).Nodup) (more : used.dedup.length < count) :
    ∃ index < count, attempt index ∉ used := by
  by_contra none
  push Not at none
  have fewer := (List.subperm_of_subset distinct fun tried mem => by
    obtain ⟨index, inRange, rfl⟩ := List.mem_map.mp mem
    exact List.mem_dedup.mpr (none index (List.mem_range.mp inRange))).length_le
  rw [List.length_map, List.length_range] at fewer
  omega

/-! ### What is handed out -/

/-- There are more numbers than names in use, and different numbers make different names. -/
theorem exists_free_number (names : Allocator) (full : String) :
    ∃ number ≤ names.used.length, withSuffix full (toString number) maxLength ∉ names.used := by
  have distinct : ((List.range (names.used.length + 1)).map fun number =>
      withSuffix full (toString number) maxLength).Nodup := by
    refine List.Nodup.map (fun first second same => ?_) List.nodup_range
    exact Text.toString_injective (withSuffix_inj (Text.dash_notMem_toString first)
      (Text.dash_notMem_toString second) same)
  obtain ⟨number, bound, free⟩ := exists_free_of_nodup distinct
    (Nat.lt_succ_of_le (List.dedup_sublist names.used).length_le)
  exact ⟨number, Nat.le_of_lt_succ bound, free⟩

/-- Numbering a name ends: the number is at most the number of names in use. -/
theorem numbered_spec (names : Allocator) (full : String) :
    names.numbered full ∉ names.used ∧
      ∃ number ≤ names.used.length,
        names.numbered full = withSuffix full (toString number) maxLength := by
  unfold numbered
  dsimp only
  cases found : List.find? _ _ with
  | none =>
    obtain ⟨number, bound, free⟩ := exists_free_number names full
    refine absurd (decide_eq_true free) (List.find?_eq_none.mp found _ ?_)
    exact List.mem_map.mpr ⟨number, List.mem_range.mpr (Nat.lt_succ_of_le bound), rfl⟩
  | some attempt =>
    have free := List.find?_some found
    obtain ⟨number, inRange, isAttempt⟩ := List.mem_map.mp (List.mem_of_find?_eq_some found)
    exact ⟨of_decide_eq_true free, number, Nat.le_of_lt_succ (List.mem_range.mp inRange),
      isAttempt.symm⟩

/-- The first free candidate is handed out, and a number only if there is none. -/
theorem freshName_cases (hash : String → String) (names : Allocator) (full : String) :
    (∃ index, FirstFree hash names.used full 0 index ∧
        freshName hash names full = candidate hash full index) ∨
      (∀ index, candidate hash full index ∈ names.used) ∧
        freshName hash names full = names.numbered full := by
  unfold freshName
  dsimp only
  split
  · rename_i name found
    obtain ⟨index, -, first, rfl⟩ := firstFree?_eq_some_iff.mp found
    exact .inl ⟨index, first, rfl⟩
  · rename_i notFound
    by_cases isFree : ∃ index, candidate hash full index ∉ names.used
    · obtain ⟨index, free⟩ := isFree
      obtain ⟨first, -, isFirst⟩ := exists_firstFree (Nat.zero_le index) free
      -- It does not lie within the budget, so the search that goes on from there comes to it.
      have beyond : names.used.length + 1 ≤ first := by
        by_contra within
        have found : firstFree? hash names full (names.used.length + 1) 0 =
            some (candidate hash full first) :=
          firstFree?_eq_some_iff.mpr ⟨first, by omega, isFirst, rfl⟩
        exact absurd (notFound.symm.trans found) nofun
      have found := search_eq_some_iff.mpr ⟨first, ⟨beyond, isFirst.free,
        fun earlier _ => isFirst.passed earlier (Nat.zero_le earlier)⟩, rfl⟩
      exact .inl ⟨first, isFirst, by rw [found, Option.getD_some]⟩
    · push Not at isFree
      refine .inr ⟨isFree, ?_⟩
      cases found : search hash names full (names.used.length + 1) with
      | none => rfl
      | some name =>
        obtain ⟨index, first, -⟩ := search_eq_some_iff.mp found
        exact absurd (isFree index) first.free

theorem freshName_of_firstFree (first : FirstFree hash names.used full 0 index) :
    freshName hash names full = candidate hash full index := by
  rcases freshName_cases hash names full with ⟨other, second, isName⟩ | ⟨inUse, -⟩
  · rw [isName, first.unique second]
  · exact absurd (inUse index) first.free

/-- A name that is handed out is not in use. -/
theorem freshName_notMem (hash : String → String) (names : Allocator) (full : String) :
    freshName hash names full ∉ names.used := by
  rcases freshName_cases hash names full with ⟨index, first, isName⟩ | ⟨-, isName⟩
  · exact isName ▸ first.free
  · exact isName ▸ (numbered_spec names full).1

/-! ### Lengths -/

theorem length_candidate_le (short : ∀ text, (hash text).length < maxLength) (index : Nat) :
    (candidate hash full index).length ≤ maxLength :=
  match index with
  | 0 => length_truncate_le
  | 1 => length_withSuffix_le (short full)
  | _ + 2 => length_withSuffix_le (short _)

/-- It fits a label, unless there are so many names that the numbers do not. -/
theorem length_freshName_le (short : ∀ text, (hash text).length < maxLength)
    (few : names.used.length < 10 ^ 62) : (freshName hash names full).length ≤ maxLength := by
  rcases freshName_cases hash names full with ⟨index, -, isName⟩ | ⟨-, isName⟩
  · exact isName ▸ length_candidate_le short index
  · obtain ⟨-, number, bound, isNumbered⟩ := numbered_spec names full
    have digits : (toString number).length ≤ 62 :=
      (Nat.length_repr_le_iff (by decide)).mpr (bound.trans_lt few)
    rw [isName, isNumbered]
    exact length_withSuffix_le (Nat.lt_succ_of_le digits)

end DevfilePush.Naming.Allocator
