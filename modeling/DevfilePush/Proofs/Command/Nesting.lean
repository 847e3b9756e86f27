import DevfilePush.Proofs.Command.Check
import DevfilePush.Proofs.Command.Expansion
import Mathlib.Data.List.Dedup
import Mathlib.Data.List.Perm.Subperm

/-!
How deep the walks over composite commands go.

Nothing in a devfile gets smaller on the way from a command to its parts, and composite commands
may well refer to each other in a circle. What ends a check and an expansion all the same is the
stack of the keys that they are inside of: no key is on it twice, and all of them but that of the
command where the walk has started are keys of the devfile (`Stacked`). So there are never more
composite commands open at once than the devfile has keys, and the one at the start.

To say this of the walks themselves, they are written once more without any reason why they should
end (`checkWithin`, `expandWithin`): as loops over the parts that go as deep as they are allowed to,
and that keep a record of their stacks. `walks_end` says that the number of keys and one more is
always deep enough, that they then come to what `validateCommand` and `flatten` say, and which
stacks they have held. The two look at their stack at different points: a check before it looks up
a part, an expansion when it is about to enter one.
-/

namespace DevfilePush

/-! ### Walks of limited depth -/

/-- A walk over composite commands. -/
inductive Descent (α : Type) where
  /-- The walk would have to go deeper than it is allowed to. -/
  | tooDeep
  /-- The walk has held these stacks of keys, the innermost key first, and has come to a result. -/
  | ended (seen : List (List String)) (result : Except CommandError α)

namespace Descent

variable {α β : Type}

/-- A step that holds no stack. -/
def ofResult (result : Except CommandError α) : Descent α :=
  .ended [] result

/-- Puts a stack on record. -/
def hold (stack : List String) : Descent Unit :=
  .ended [stack] (.ok ())

/-- One walk after another: a failure is final, and so is a depth that does not suffice. -/
def bind : Descent α → (α → Descent β) → Descent β
  | .tooDeep, _ => .tooDeep
  | .ended seen (.error cause), _ => .ended seen (.error cause)
  | .ended seen (.ok value), next =>
    match next value with
    | .tooDeep => .tooDeep
    | .ended later result => .ended (seen ++ later) result

instance : Monad Descent where
  pure value := .ofResult (.ok value)
  bind := bind

instance : LawfulMonad Descent := LawfulMonad.mk' Descent
  (by
    intro α walk
    rcases walk with _ | ⟨seen, _ | value⟩
    · rfl
    · rfl
    · exact congrArg (ended · _) (List.append_nil seen))
  (by
    intro α β value next
    change bind (.ofResult (.ok value)) next = next value
    cases isNext : next value <;> simp [bind, ofResult, isNext])
  (by
    intro α β γ walk next last
    change bind (bind walk next) last = bind walk fun value => bind (next value) last
    rcases walk with _ | ⟨seen, _ | value⟩
    · rfl
    · rfl
    · cases isNext : next value with
      | tooDeep => simp [bind, isNext]
      | ended later result =>
        cases result with
        | error cause => simp [bind, isNext]
        | ok found => cases isLast : last found <;> simp [bind, isNext, isLast])

/-- The walk ends with the given result, and all stacks that it has held are `fit`. -/
def Ends (walk : Descent α) (fit : List String → Prop) (result : Except CommandError α) : Prop :=
  ∃ seen, walk = .ended seen result ∧ ∀ stack ∈ seen, fit stack

variable {fit : List String → Prop}

theorem ends_ofResult (result : Except CommandError α) : (ofResult result).Ends fit result :=
  ⟨[], rfl, by simp⟩

theorem Ends.imp {walk : Descent α} {result : Except CommandError α} {fit' : List String → Prop}
    (ends : walk.Ends fit result) (fits : ∀ stack, fit stack → fit' stack) :
    walk.Ends fit' result := by
  obtain ⟨seen, isWalk, fit⟩ := ends
  exact ⟨seen, isWalk, fun stack mem => fits stack (fit stack mem)⟩

/-- Walks end if each of them ends whenever those before it have succeeded. -/
theorem Ends.bind {walk : Descent α} {next : α → Descent β} {result : Except CommandError α}
    {rest : α → Except CommandError β} (first : walk.Ends fit result)
    (others : ∀ value, result = .ok value → (next value).Ends fit (rest value)) :
    (walk >>= next).Ends fit (result >>= rest) := by
  obtain ⟨seen, rfl, fitFirst⟩ := first
  cases result with
  | error cause => exact ⟨seen, rfl, fitFirst⟩
  | ok value =>
    obtain ⟨later, isNext, fitLater⟩ := others value rfl
    refine ⟨seen ++ later, ?_, List.forall_mem_append.mpr ⟨fitFirst, fitLater⟩⟩
    change Descent.bind _ _ = _
    simp only [Descent.bind, isNext]
    rfl

/-- Holding a stack is no step of its own: it has to be fit, and that is all. -/
theorem Ends.held {stack : List String} {walk : Descent α} {result : Except CommandError α}
    (ends : walk.Ends fit result) (isFit : fit stack) :
    (do hold stack; walk).Ends fit result := by
  have holds : (hold stack).Ends fit (.ok ()) :=
    ⟨[stack], rfl, List.forall_mem_singleton.mpr isFit⟩
  have continued : (do hold stack; walk).Ends fit (do .ok (); result) :=
    holds.bind fun _ _ => ends
  exact continued

/-- A loop ends with what the loop over the results comes to. -/
theorem ends_forM {step : String → Descent Unit} {check : String → Except CommandError Unit}
    {items : List String} (each : ∀ item ∈ items, (step item).Ends fit (check item)) :
    (forM items step).Ends fit (forM items check) := by
  induction items with
  | nil => exact ends_ofResult (.ok ())
  | cons item rest ih =>
    rw [List.forM_cons, List.forM_cons]
    obtain ⟨first, others⟩ := List.forall_mem_cons.mp each
    exact first.bind fun _ _ => ih others

/-- The same for a loop that collects values. -/
theorem ends_mapM {step : String → Descent α} {check : String → Except CommandError α}
    {items : List String} (each : ∀ item ∈ items, (step item).Ends fit (check item)) :
    (items.mapM step).Ends fit (items.mapM check) := by
  induction items with
  | nil => exact ends_ofResult (.ok [])
  | cons item rest ih =>
    rw [List.mapM_cons, List.mapM_cons]
    obtain ⟨first, others⟩ := List.forall_mem_cons.mp each
    exact first.bind fun _ _ => (ih others).bind fun _ _ => ends_ofResult _

end Descent

namespace Devfile

variable {devfile : Devfile} {start command part : Command} {path stack : List String}
  {subId : String} {depth : Nat}

/-! ### The walks -/

/-- The check of a command inside composite commands with the keys `path`, with at most `depth`
more of them open at once. -/
def checkWithin (devfile : Devfile) : Nat → List String → Command → Descent Unit
  | depth, path, command =>
    match command.body with
    | .exec body => .ofResult (devfile.validateExec command.id body)
    | .composite body =>
      if body.isRun then .ofResult (.error (.compositeRunKind command.id))
      else match depth with
        | 0 => .tooDeep
        | depth + 1 => do
          .hold (command.key :: path)
          forM body.commands fun subId =>
            if Text.lowercase subId ∈ command.key :: path then
              .ofResult (.error (.compositeSelfReference command.id))
            else match devfile.commandByKey? (Text.lowercase subId) with
              | none => .ofResult (.error (.compositeMissingSubcommand command.id subId))
              | some part => devfile.checkWithin depth (command.key :: path) part

/-- The expansion of a command inside composite commands with the keys `path`, with at most `depth`
more of them open at once. -/
def expandWithin (devfile : Devfile) : Nat → List String → Command → Descent (List Command)
  | depth, path, command =>
    match command.body with
    | .exec _ => .ofResult (.ok [command])
    | .composite body =>
      if command.key ∈ path then .ofResult (.error (.compositeSelfReference command.id))
      else match depth with
        | 0 => .tooDeep
        | depth + 1 => do
          .hold (command.key :: path)
          let leaves ← body.commands.mapM fun subId =>
            match devfile.commandByKey? (Text.lowercase subId) with
            | none => .ofResult (.error (.compositeMissingSubcommand command.id subId))
            | some part => devfile.expandWithin depth (command.key :: path) part
          return leaves.flatten

/-! ### Stacks -/

/-- The number of keys, those of several commands counted once. -/
def keyCount (devfile : Devfile) : Nat :=
  devfile.commandKeys.dedup.length

/-- The keys on the way from `start` to the command that is entered last: all different, and all
but that of `start` known to the devfile. -/
structure Stacked (devfile : Devfile) (start : Command) (stack : List String) : Prop where
  nodup : stack.Nodup
  known : ∃ above, stack = above ++ [start.key] ∧ ∀ key ∈ above, key ∈ devfile.commandKeys

theorem stacked_start : devfile.Stacked start [start.key] :=
  ⟨List.nodup_singleton _, [], rfl, by simp⟩

/-- A part that is not on the stack may be put there. -/
theorem Stacked.push (stacked : devfile.Stacked start stack)
    (found : devfile.commandByKey? (Text.lowercase subId) = some part)
    (fresh : part.key ∉ stack) : devfile.Stacked start (part.key :: stack) := by
  obtain ⟨nodup, above, rfl, known⟩ := stacked
  refine ⟨List.nodup_cons.mpr ⟨fresh, nodup⟩, part.key :: above, rfl, ?_⟩
  rw [key_of_commandByKey? found]
  exact List.forall_mem_cons.mpr ⟨mem_commandKeys_of_commandByKey? found, known⟩

/-- Different keys of a devfile are no more than the devfile has. -/
theorem length_le_keyCount {keys : List String} (nodup : keys.Nodup)
    (known : ∀ key ∈ keys, key ∈ devfile.commandKeys) : keys.length ≤ devfile.keyCount :=
  (List.Nodup.subperm nodup fun key mem => List.mem_dedup.mpr (known key mem)).length_le

/-- All keys on a stack but the lowest one are keys of the devfile. -/
theorem Stacked.length_le (stacked : devfile.Stacked start stack) :
    stack.length ≤ devfile.keyCount + 1 := by
  obtain ⟨nodup, above, rfl, known⟩ := stacked
  rw [List.length_append]
  exact Nat.succ_le_succ (length_le_keyCount (List.Nodup.of_append_left nodup) known)

/-- The command at the start does not count if the devfile knows its key. -/
theorem Stacked.length_le_of_known (stacked : devfile.Stacked start stack)
    (knownStart : start.key ∈ devfile.commandKeys) : stack.length ≤ devfile.keyCount := by
  obtain ⟨nodup, above, rfl, known⟩ := stacked
  refine length_le_keyCount nodup (List.forall_mem_append.mpr ⟨known, ?_⟩)
  exact List.forall_mem_singleton.mpr knownStart

/-! ### Enough depth -/

/-- As long as the depth left makes up for what is on the stack, there is some left whenever a
composite command is entered. -/
theorem exists_depth (stacked : devfile.Stacked start (command.key :: path))
    (enough : devfile.keyCount + 1 ≤ depth + path.length) :
    ∃ less, depth = less + 1 ∧ devfile.keyCount + 1 ≤ less + (command.key :: path).length := by
  have bounded := stacked.length_le
  rw [List.length_cons] at bounded ⊢
  cases depth with
  | zero => omega
  | succ less => exact ⟨less, rfl, by omega⟩

/-- A check with enough depth left ends with what `check` says, and only holds stacks of the walk.
The induction is on the depth, which every command that is entered takes one from. -/
theorem checkWithin_ends (stacked : devfile.Stacked start (command.key :: path))
    (enough : devfile.keyCount + 1 ≤ depth + path.length) :
    (devfile.checkWithin depth path command).Ends (devfile.Stacked start)
      (devfile.check path command) := by
  induction depth using Nat.strongRecOn generalizing path command with
  | ind depth ih =>
    cases isBody : command.body with
    | exec body =>
      rw [checkWithin, isBody, check_of_exec isBody]
      exact Descent.ends_ofResult _
    | composite body =>
      obtain ⟨less, rfl, enoughParts⟩ := exists_depth stacked enough
      rw [checkWithin, isBody, check_of_composite isBody]
      dsimp only
      split
      · exact Descent.ends_ofResult _
      · rw [validateParts_eq_forM]
        refine (Descent.ends_forM fun subId _ => ?_).held stacked
        rw [checkPart]
        split
        · exact Descent.ends_ofResult _
        · rename_i fresh
          cases found : devfile.commandByKey? (Text.lowercase subId) with
          | none => exact Descent.ends_ofResult _
          | some part =>
            rw [← key_of_commandByKey? found] at fresh
            exact ih less (Nat.lt_succ_self less) (stacked.push found fresh) enoughParts

/-- Likewise for an expansion. It looks at its stack after it has gone down, so the command that it
is about to enter may be on the stack. -/
theorem expandWithin_ends
    (stacked : command.key ∉ path → devfile.Stacked start (command.key :: path))
    (enough : devfile.keyCount + 1 ≤ depth + path.length) :
    (devfile.expandWithin depth path command).Ends (devfile.Stacked start)
      (devfile.expand path command) := by
  induction depth using Nat.strongRecOn generalizing path command with
  | ind depth ih =>
    cases isBody : command.body with
    | exec body =>
      rw [expandWithin, isBody, expand_of_exec isBody]
      exact Descent.ends_ofResult _
    | composite body =>
      rw [expandWithin, isBody, expand_of_composite isBody]
      dsimp only
      split
      · exact Descent.ends_ofResult _
      · rename_i entered
        obtain ⟨less, rfl, enoughParts⟩ := exists_depth (stacked entered) enough
        rw [leavesOfParts_eq_mapM]
        refine Descent.Ends.held ?_ (stacked entered)
        refine (Descent.ends_mapM fun subId _ => ?_).bind fun leaves _ => Descent.ends_ofResult _
        rw [expandPart]
        cases found : devfile.commandByKey? (Text.lowercase subId) with
        | none => exact Descent.ends_ofResult _
        | some part =>
          exact ih less (Nat.lt_succ_self less) (stacked entered |>.push found) enoughParts

/-- Checks and expansions of all commands end, however the commands of the devfile refer to each
other. The composite commands that they are inside of at a time are all different, all but the one
at the start are known to the devfile, and so there are at most as many of them as the devfile has
keys, and one more; or no more than that if the devfile knows the start as well. -/
theorem walks_end (devfile : Devfile) (start : Command) :
    let bounded stack := devfile.Stacked start stack ∧ stack.length ≤ devfile.keyCount + 1 ∧
      (start.key ∈ devfile.commandKeys → stack.length ≤ devfile.keyCount)
    (devfile.checkWithin (devfile.keyCount + 1) [] start).Ends bounded
        (devfile.validateCommand start) ∧
      (devfile.expandWithin (devfile.keyCount + 1) [] start).Ends bounded
        (devfile.flatten start) := by
  intro bounded
  have isBounded : ∀ stack, devfile.Stacked start stack → bounded stack := fun stack stacked =>
    ⟨stacked, stacked.length_le, stacked.length_le_of_known⟩
  rw [validateCommand_eq_check, flatten_eq_expand]
  exact ⟨(checkWithin_ends stacked_start (Nat.le_refl _)).imp isBounded,
    (expandWithin_ends (fun _ => stacked_start) (Nat.le_refl _)).imp isBounded⟩

/-- Two composite commands that contain each other. -/
def circular : Devfile :=
  { commands := [.ofCommands "Left" ["right"], .ofCommands "Right" ["LEFT"]] }

-- From outside, all of the depth is needed. A check refuses the way back at the command that has
-- it, an expansion at the command that it leads to.
example : circular.checkWithin 3 [] (.ofCommands "all" ["left"]) =
    .ended [["all"], ["left", "all"], ["right", "left", "all"]]
      (.error (.compositeSelfReference "Right")) := by rfl

example : circular.expandWithin 3 [] (.ofCommands "all" ["left"]) =
    .ended [["all"], ["left", "all"], ["right", "left", "all"]]
      (.error (.compositeSelfReference "Left")) := by rfl

end Devfile

end DevfilePush
