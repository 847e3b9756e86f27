import Mathlib.Data.List.Forall2

/-!
Checks that succeed, and checks that fail.

The devfile is examined by computations in `Except`, whose failures are data. A lemma
here says, for each way of combining checks, what the success of the whole says of the
parts. `Yields` speaks of both ends at once: what is true when a check succeeds, and which
causes it can fail with.
-/

namespace DevfilePush.Checked

variable {ε ε' α β : Type}

theorem pure_eq_ok_iff {found value : α} :
    (pure found : Except ε α) = .ok value ↔ found = value :=
  Except.ok.injEq found value ▸ Iff.rfl

/-- A check fails where it does not succeed. -/
theorem exists_eq_error_iff {check : Except ε α} :
    (∃ cause, check = .error cause) ↔ ¬ ∃ value, check = .ok value := by
  cases check with
  | ok value => exact iff_of_false nofun (not_not_intro ⟨value, rfl⟩)
  | error cause => exact iff_of_true ⟨cause, rfl⟩ nofun

/-- Two checks in a row succeed when both do. -/
theorem bind_eq_ok_iff {check : Except ε α} {next : α → Except ε β} {value : β} :
    (check >>= next) = .ok value ↔ ∃ found, check = .ok found ∧ next found = .ok value := by
  cases check with
  | ok found =>
    constructor
    · intro done
      exact ⟨found, rfl, done⟩
    · rintro ⟨found', same, done⟩
      cases same
      exact done
  | error cause =>
    constructor
    · intro done
      cases done
    · rintro ⟨found, impossible, -⟩
      cases impossible

/-- A check that finds nothing out, before another one. -/
theorem bind_unit_eq_ok_iff {check : Except ε Unit} {next : Except ε β} {value : β} :
    (do check; next) = .ok value ↔ check = .ok () ∧ next = .ok value := by
  rw [bind_eq_ok_iff]
  constructor
  · rintro ⟨⟨⟩, checked, done⟩
    exact ⟨checked, done⟩
  · rintro ⟨checked, done⟩
    exact ⟨(), checked, done⟩

/-- Two checks in a row fail where the first one does, or else where the second one does. -/
theorem bind_eq_error_iff {check : Except ε α} {next : α → Except ε β} {cause : ε} :
    (check >>= next) = .error cause ↔
      check = .error cause ∨ ∃ found, check = .ok found ∧ next found = .error cause := by
  cases check with
  | ok found =>
    constructor
    · intro failed
      exact .inr ⟨found, rfl, failed⟩
    · rintro (impossible | ⟨found', same, failed⟩)
      · cases impossible
      · cases same
        exact failed
  | error cause' =>
    constructor
    · intro failed
      cases failed
      exact .inl rfl
    · rintro (same | ⟨found, impossible, -⟩)
      · cases same
        rfl
      · cases impossible

/-- Wording a failure differently changes nothing about success. -/
theorem mapError_eq_ok_iff {check : Except ε α} {wording : ε → ε'} {value : α} :
    check.mapError wording = .ok value ↔ check = .ok value := by
  cases check with
  | ok found =>
    constructor
    · intro done
      cases done
      rfl
    · intro done
      cases done
      rfl
  | error cause =>
    constructor
    · intro done
      cases done
    · intro done
      cases done

/-- Doing something to what is found changes nothing about failure. -/
theorem map_eq_error_iff {check : Except ε α} {f : α → β} {cause : ε} :
    check.map f = .error cause ↔ check = .error cause := by
  cases check with
  | ok found =>
    constructor
    · intro impossible
      cases impossible
    · intro impossible
      cases impossible
  | error cause' =>
    constructor
    · intro failed
      cases failed
      rfl
    · intro failed
      cases failed
      rfl

/-- A check that is found to succeed with a certain value does succeed with one. -/
theorem exists_of_any_toOption {check : Except ε α} {p : α → Bool}
    (found : check.toOption.any p = true) : ∃ value, check = .ok value ∧ p value = true := by
  cases check with
  | ok value => exact ⟨value, rfl, found⟩
  | error cause => cases found

/-- When all items pass a check, the results are those of the items, one by one. -/
theorem forall₂_of_mapM_eq_ok {check : α → Except ε β} {items : List α} {results : List β}
    (done : items.mapM check = .ok results) :
    List.Forall₂ (fun item result => check item = .ok result) items results := by
  induction items generalizing results with
  | nil =>
    cases done
    exact .nil
  | cons item rest ih =>
    rw [List.mapM_cons] at done
    obtain ⟨first, checked, done⟩ := bind_eq_ok_iff.mp done
    obtain ⟨others, checkedRest, done⟩ := bind_eq_ok_iff.mp done
    cases done
    exact .cons checked (ih checkedRest)

theorem map_eq_map_of_mapM_eq_ok {γ : Type} {check : α → Except ε β} {items : List α}
    {results : List β} (done : items.mapM check = .ok results) {ofResult : β → γ}
    {ofItem : α → γ}
    (same : ∀ item result, check item = .ok result → ofResult result = ofItem item) :
    results.map ofResult = items.map ofItem := by
  have all := forall₂_of_mapM_eq_ok done
  clear done
  induction all with
  | nil => rfl
  | cons checked _ ih =>
    rw [List.map_cons, List.map_cons, same _ _ checked, ih]

/-! ### Both ends of a check -/

/-- The check answers only values with `post`, and fails only with causes that `fail` allows. -/
def Yields (check : Except ε α) (post : α → Prop) (fail : ε → Prop) : Prop :=
  match check with
  | .ok value => post value
  | .error cause => fail cause

section

variable {check : Except ε α} {post : α → Prop} {fail : ε → Prop}

theorem Yields.ok (yields : Yields check post fail) {value : α} (done : check = .ok value) :
    post value := by
  rw [done] at yields
  exact yields

theorem Yields.error (yields : Yields check post fail) {cause : ε} (failed : check = .error cause) :
    fail cause := by
  rw [failed] at yields
  exact yields

/-- A check is known by what is found when it succeeds and when it fails. -/
theorem yields_of (succeeds : ∀ value, check = .ok value → post value)
    (fails : ∀ cause, check = .error cause → fail cause) : Yields check post fail := by
  cases check with
  | ok value => exact succeeds value rfl
  | error cause => exact fails cause rfl

theorem Yields.imp_post {post' : α → Prop} (yields : Yields check post fail)
    (succeeds : ∀ value, post value → post' value) : Yields check post' fail :=
  yields_of (fun value done => succeeds value (yields.ok done)) fun _ failed => yields.error failed

theorem Yields.imp_fail {fail' : ε → Prop} (yields : Yields check post fail)
    (fails : ∀ cause, fail cause → fail' cause) : Yields check post fail' :=
  yields_of (fun _ done => yields.ok done) fun cause failed => fails cause (yields.error failed)

/-- One check after another: the second knows what the first has found. -/
theorem Yields.bind {next : α → Except ε β} {mid : α → Prop} {post : β → Prop}
    (first : Yields check mid fail)
    (rest : ∀ found, check = .ok found → mid found → Yields (next found) post fail) :
    Yields (check >>= next) post fail := by
  cases check with
  | ok found => exact rest found rfl first
  | error cause => exact first

/-- Wording the failure differently. -/
theorem Yields.mapError {wording : ε → ε'} {fail' : ε' → Prop}
    (yields : Yields check post fun cause => fail' (wording cause)) :
    Yields (check.mapError wording) post fail' := by
  cases check with
  | ok value => exact yields
  | error cause => exact yields

end

/-- Checking items one after another: each item has its result and each result its item, or one
of the items is at fault. -/
theorem yields_mapM {check : α → Except ε β} {items : List α} {fit : α → β → Prop}
    {fail : ε → Prop} (each : ∀ item ∈ items, Yields (check item) (fit item) fail) :
    Yields (items.mapM check)
      (fun results => (∀ item ∈ items, ∃ result ∈ results, fit item result) ∧
        ∀ result ∈ results, ∃ item ∈ items, fit item result) fail := by
  induction items with
  | nil => exact ⟨by simp, by simp⟩
  | cons item rest ih =>
    rw [List.mapM_cons]
    have others := ih fun other mem => each other (List.mem_cons_of_mem _ mem)
    refine (each item List.mem_cons_self).bind fun result _ isFit => ?_
    refine others.bind fun results _ fitRest => ⟨?_, ?_⟩
    · intro other mem
      rcases List.mem_cons.mp mem with rfl | mem
      · exact ⟨result, List.mem_cons_self, isFit⟩
      · obtain ⟨found, foundMem, isResult⟩ := fitRest.1 other mem
        exact ⟨found, List.mem_cons_of_mem _ foundMem, isResult⟩
    · intro found mem
      rcases List.mem_cons.mp mem with rfl | mem
      · exact ⟨item, List.mem_cons_self, isFit⟩
      · obtain ⟨other, otherMem, isResult⟩ := fitRest.2 found mem
        exact ⟨other, List.mem_cons_of_mem _ otherMem, isResult⟩

end DevfilePush.Checked
