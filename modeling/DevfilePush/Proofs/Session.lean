import DevfilePush.Cluster.Client

/-!
What work on a cluster ensures.

`Ensures pre work post fail` is the triple of a session: whatever state it begins in, if
`pre` holds there, then `post` holds of the value and the state afterwards, or `fail` of
the failure and the state that it left behind. The second half matters as much as the
first, because failing work keeps what it has written. The rules follow the steps of a
session.
-/

namespace DevfilePush.Session

variable {σ α β : Type}

/-- From every state with `pre`, `work` answers a value with `post` or fails with `fail`. -/
def Ensures (pre : σ → Prop) (work : Session σ α) (post : α → σ → Prop)
    (fail : Failure → σ → Prop) : Prop :=
  ∀ s, pre s → match work s with
    | (.ok value, t) => post value t
    | (.error failure, t) => fail failure t

/-- Work that finds an assertion true leaves it true, and fails in no other way than
`fail` allows. -/
def Keeps (inv : σ → Prop) (work : Session σ α) (fail : Failure → σ → Prop) : Prop :=
  Ensures inv work (fun _ => inv) fail

variable {pre : σ → Prop} {post : α → σ → Prop} {fail : Failure → σ → Prop}

/-! ### Reading a triple -/

theorem Ensures.ok {work : Session σ α} (triple : Ensures pre work post fail) {s t : σ}
    {value : α} (begun : pre s) (run : work s = (.ok value, t)) : post value t := by
  have ends := triple s begun
  rw [run] at ends
  exact ends

theorem Ensures.error {work : Session σ α} (triple : Ensures pre work post fail) {s t : σ}
    {failure : Failure} (begun : pre s) (run : work s = (.error failure, t)) :
    fail failure t := by
  have ends := triple s begun
  rw [run] at ends
  exact ends

/-- One step after another, as a run. -/
theorem bind_run (work : Session σ β) (next : β → Session σ α) (s : σ) :
    (work >>= next) s = match work s with
      | (.ok value, t) => next value t
      | (.error failure, t) => (.error failure, t) := by
  change (ExceptT.bindCont next (work s).1) (work s).2 = _
  cases work s with
  | mk result t => cases result <;> rfl

/-- Work whose value is changed afterwards. -/
@[simp] theorem map_run (change : β → α) (work : Session σ β) (s : σ) :
    (change <$> work) s = ((work s).1.map change, (work s).2) := by
  rw [map_eq_pure_bind, bind_run]
  cases work s with
  | mk result t => cases result <;> rfl

@[simp] theorem pure_run (value : α) (s : σ) :
    (Pure.pure value : Session σ α) s = (.ok value, s) :=
  rfl

@[simp] theorem throw_run (failure : Failure) (s : σ) :
    (MonadExcept.throw failure : Session σ α) s = (.error failure, s) :=
  rfl

@[simp] theorem get_run (s : σ) : (get : Session σ σ) s = (.ok s, s) :=
  rfl

@[simp] theorem modify_run (change : σ → σ) (s : σ) :
    (modify change : Session σ PUnit) s = (.ok ⟨⟩, change s) :=
  rfl

/-- Work that cannot fail, as a run. -/
theorem liftM_run (work : StateM σ α) (s : σ) :
    (liftM work : Session σ α) s = (.ok (work s).1, (work s).2) :=
  rfl

/-- What work keeps in any case is true when it is over. -/
theorem Keeps.after {inv : σ → Prop} {work : Session σ α} (keeps : Keeps inv work fun _ => inv)
    {s : σ} (begun : inv s) : inv (work s).2 := by
  have ends := keeps s begun
  cases run : work s with
  | mk result t =>
    rw [run] at ends
    cases result with
    | ok value => exact ends
    | error failure => exact ends

/-! ### Rules -/

/-- Whatever work does, it does something. -/
theorem ensures_trivial (work : Session σ α) :
    Ensures (fun _ => True) work (fun _ _ => True) fun _ _ => True := by
  intro s _
  cases work s with
  | mk result t => cases result <;> trivial

theorem Ensures.weaken {work : Session σ α} (triple : Ensures pre work post fail)
    {pre' : σ → Prop} {post' : α → σ → Prop} {fail' : Failure → σ → Prop}
    (before : ∀ s, pre' s → pre s) (after : ∀ value s, post value s → post' value s)
    (failed : ∀ failure s, fail failure s → fail' failure s) :
    Ensures pre' work post' fail' := by
  intro s begun
  have ends := triple s (before s begun)
  cases run : work s with
  | mk result t =>
    rw [run] at ends
    cases result with
    | ok value => exact after value t ends
    | error failure => exact failed failure t ends

/-- What holds wherever the work begins may be used to prove its triple. -/
theorem Ensures.ofFact {work : Session σ α} {fact : Prop} (known : ∀ s, pre s → fact)
    (triple : fact → Ensures pre work post fail) : Ensures pre work post fail := by
  intro s begun
  exact triple (known s begun) s begun

theorem Ensures.pure {value : α} (holds : ∀ s, pre s → post value s) :
    Ensures pre (Pure.pure value) post fail :=
  holds

theorem Ensures.throw {failure : Failure} (holds : ∀ s, pre s → fail failure s) :
    Ensures pre (MonadExcept.throw failure : Session σ α) post fail :=
  holds

/-- One step after another: what the first ensures is what the second begins with. -/
theorem Ensures.bind {work : Session σ β} {next : β → Session σ α} {mid : β → σ → Prop}
    (first : Ensures pre work mid fail)
    (rest : ∀ value, Ensures (mid value) (next value) post fail) :
    Ensures pre (work >>= next) post fail := by
  intro s begun
  have ends := first s begun
  change match (ExceptT.bindCont next (work s).1) (work s).2 with
    | (.ok value, t) => post value t
    | (.error failure, t) => fail failure t
  cases run : work s with
  | mk result t =>
    rw [run] at ends
    cases result with
    | ok value => exact rest value t ends
    | error failure => exact ends

/-- A step that cannot fail. -/
theorem Ensures.lift {work : StateM σ α} (holds : ∀ s, pre s → post (work s).1 (work s).2) :
    Ensures pre (liftM work : Session σ α) post fail :=
  holds

/-! ### Work with a log -/

/-- Work adds entries to a log as planned: all of them if it succeeds, with a value that has
`answer`, and only some first ones if it fails. -/
def Follows {ε : Type} (log : σ → List ε) (work : Session σ α) (planned : List ε)
    (answer : α → Prop) : Prop :=
  ∀ entries, Ensures (fun s => log s = entries) work
    (fun value s => answer value ∧ log s = entries ++ planned)
    fun _ s => ∃ made, made <+: planned ∧ log s = entries ++ made

section

variable {ε : Type} {log : σ → List ε} {first second : List ε} {answer : α → Prop}

theorem Follows.pure {value : α} (isAnswer : answer value) :
    Follows log (Pure.pure value : Session σ α) [] answer := by
  intro entries
  exact .pure fun s logged => ⟨isAnswer, by rw [logged, List.append_nil]⟩

theorem Follows.throw {failure : Failure} :
    Follows log (MonadExcept.throw failure : Session σ α) first answer := by
  intro entries
  exact .throw fun s logged => ⟨[], List.nil_prefix, by rw [logged, List.append_nil]⟩

/-- One step after another: the second adds to what the first has added. -/
theorem Follows.bind {work : Session σ β} {next : β → Session σ α} {mid : β → Prop}
    (begins : Follows log work first mid)
    (goesOn : ∀ value, mid value → Follows log (next value) second answer) :
    Follows log (work >>= next) (first ++ second) answer := by
  intro entries
  have begun : Ensures (fun s => log s = entries) work
      (fun value s => mid value ∧ log s = entries ++ first)
      fun _ s => ∃ made, made <+: first ++ second ∧ log s = entries ++ made := by
    refine (begins entries).weaken (fun _ logged => logged) (fun _ _ done => done) ?_
    rintro failure s ⟨made, isPrefix, logged⟩
    exact ⟨made, isPrefix.trans (List.prefix_append _ _), logged⟩
  refine begun.bind fun value => ?_
  refine .ofFact (fun _ done => done.1) fun isMid => ?_
  refine (goesOn value isMid (entries ++ first)).weaken (fun _ done => done.2) ?_ ?_
  · rintro result s ⟨isAnswer, logged⟩
    exact ⟨isAnswer, by rw [logged, List.append_assoc]⟩
  · rintro failure s ⟨made, isPrefix, logged⟩
    refine ⟨first ++ made, (List.prefix_append_right_inj first).mpr isPrefix, ?_⟩
    rw [logged, List.append_assoc]

end

theorem modify_eq (change : σ → σ) (s : σ) :
    (modify change : StateM σ PUnit) s = ((), change s) :=
  rfl

end DevfilePush.Session
