import DevfilePush.Command.Expansion
import DevfilePush.Command.Validation
import DevfilePush.Proofs.Checked
import DevfilePush.Proofs.Command.Reference

/-!
Validation and expansion agree.

Both walk from a composite command to its parts, keep the keys on the way and refuse to
enter one twice, but they are separate recursions: validation may refuse more, and only
expansion answers commands. `flatten_of_validateCommand` says that whatever passes the
first can be taken apart by the second, into exec commands that pass as well.
-/

namespace DevfilePush

theorem Command.exec?_eq_some_iff {command : Command} {body : ExecBody} :
    command.exec? = some body ↔ command.body = .exec body := by
  unfold Command.exec?
  split <;> simp [*]

namespace Devfile

variable {devfile : Devfile} {command : Command} {path : List String} {owner : String}
  {leaves : List Command}

/-- An exec command that passes its checks: what an expansion consists of. -/
def IsLeaf (devfile : Devfile) (command : Command) : Prop :=
  (∃ body, command.body = .exec body) ∧ devfile.validateCommand command = .ok ()

/-! ### One command -/

/-- The exec commands of one command, inside composite commands with the keys `path`. -/
def expand (devfile : Devfile) (path : List String) (command : Command) :
    Except CommandError (List Command) :=
  match command.body with
  | .exec _ => .ok [command]
  | .composite body =>
    if command.key ∈ path then .error (.compositeSelfReference command.id)
    else devfile.leavesOfParts (command.key :: path) command.id body.commands

theorem expand_of_exec {body : ExecBody} (isBody : command.body = .exec body) :
    devfile.expand path command = .ok [command] := by
  rw [expand, isBody]

/-- A composite command is refused where its own key is on the path already. -/
theorem expand_of_composite {body : CompositeBody} (isBody : command.body = .composite body) :
    devfile.expand path command =
      if command.key ∈ path then .error (.compositeSelfReference command.id)
      else devfile.leavesOfParts (command.key :: path) command.id body.commands := by
  rw [expand, isBody]

/-- A command is expanded as if nothing were around it. -/
theorem flatten_eq_expand : devfile.flatten command = devfile.expand [] command := by
  unfold flatten expand
  cases command.body with
  | exec body => rfl
  | composite body => exact (if_neg List.not_mem_nil).symm

/-- Parts are expanded one by one, each from the same path. -/
theorem leavesOfParts_cons (subId : String) (rest : List String) :
    devfile.leavesOfParts path owner (subId :: rest) =
      match devfile.commandByKey? (Text.lowercase subId) with
      | none => .error (.compositeMissingSubcommand owner subId)
      | some part => do
        let first ← devfile.expand path part
        let others ← devfile.leavesOfParts path owner rest
        return first ++ others := by
  rw [leavesOfParts]
  split
  · rename_i missing
    rw [missing]
  · rename_i part found
    rw [found]
    dsimp only
    cases isBody : part.body with
    | exec body =>
      rw [expand_of_exec isBody]
      rfl
    | composite body =>
      rw [expand_of_composite isBody, key_of_commandByKey? found]
      dsimp only
      split <;> rfl

/-- The exec commands of one part of the composite command `owner`, whose key is on `path`. -/
def expandPart (devfile : Devfile) (path : List String) (owner subId : String) :
    Except CommandError (List Command) :=
  match devfile.commandByKey? (Text.lowercase subId) with
  | none => .error (.compositeMissingSubcommand owner subId)
  | some part => devfile.expand path part

/-- The expansion of a list of parts is what its parts are expanded to, one after another. -/
theorem leavesOfParts_eq_mapM {parts : List String} :
    devfile.leavesOfParts path owner parts = do
      let leaves ← parts.mapM (devfile.expandPart path owner)
      return leaves.flatten := by
  induction parts with
  | nil =>
    rw [leavesOfParts]
    rfl
  | cons subId rest ih =>
    rw [leavesOfParts_cons, List.mapM_cons, expandPart, ih]
    cases devfile.commandByKey? (Text.lowercase subId) with
    | none => rfl
    | some part => simp only [bind_assoc, pure_bind, List.flatten_cons]

/-- Parts are expanded if the first one names a command that is, and the others are. -/
theorem leavesOfParts_cons_eq_ok_iff {subId : String} {rest : List String} :
    devfile.leavesOfParts path owner (subId :: rest) = .ok leaves ↔
      ∃ part, devfile.Names subId part ∧
        ∃ first, devfile.expand path part = .ok first ∧
          ∃ others, devfile.leavesOfParts path owner rest = .ok others ∧
            first ++ others = leaves := by
  simp only [← commandByKey?_eq_some_iff]
  rw [leavesOfParts_cons]
  cases devfile.commandByKey? (Text.lowercase subId) with
  | none => simp
  | some part =>
    simp only [Checked.bind_eq_ok_iff, Checked.pure_eq_ok_iff, Option.some.injEq, exists_eq_left']

/-! ### Whole commands -/

/-- Parts that pass their checks can be expanded from the same path. -/
theorem leavesOfParts_of_validateParts {parts : List String}
    (valid : devfile.validateParts path owner parts = .ok ()) :
    ∃ leaves, devfile.leavesOfParts path owner parts = .ok leaves ∧
      ∀ leaf ∈ leaves, devfile.IsLeaf leaf := by
  -- The induction is on the run of the validation, whose cases name what it has found.
  fun_induction Devfile.validateParts devfile path owner parts with
  | case1 path owner =>
    exact ⟨[], by rw [leavesOfParts], by simp⟩
  | case2 | case3 | case5 => cases valid
  | case4 path owner subId rest fresh sub found body isExec ihRest =>
    obtain ⟨⟨⟩, checked, validRest⟩ := Checked.bind_eq_ok_iff.mp valid
    obtain ⟨leaves, expanded, fit⟩ := ihRest validRest
    refine ⟨sub :: leaves, ?_, ?_⟩
    · exact leavesOfParts_cons_eq_ok_iff.mpr
        ⟨sub, commandByKey?_eq_some_iff.mp found, [sub], expand_of_exec isExec, leaves, expanded,
          rfl⟩
    · intro leaf mem
      rcases List.mem_cons.mp mem with rfl | mem
      · exact ⟨⟨body, isExec⟩, by rw [validateCommand, isExec]; exact checked⟩
      · exact fit leaf mem
  | case6 path owner subId rest fresh sub found body isComposite notRun ihParts ihRest =>
    obtain ⟨⟨⟩, validParts, validRest⟩ := Checked.bind_eq_ok_iff.mp valid
    obtain ⟨inner, expanded, fit⟩ := ihParts validParts
    obtain ⟨leaves, expandedRest, fitRest⟩ := ihRest validRest
    refine ⟨inner ++ leaves, ?_, ?_⟩
    · refine leavesOfParts_cons_eq_ok_iff.mpr
        ⟨sub, commandByKey?_eq_some_iff.mp found, inner, ?_, leaves, expandedRest, rfl⟩
      rw [expand_of_composite isComposite, key_of_commandByKey? found, if_neg fresh, expanded]
    · intro leaf mem
      rcases List.mem_append.mp mem with mem | mem
      · exact fit leaf mem
      · exact fitRest leaf mem

/-- An exec command stands for itself. -/
theorem flatten_of_exec {command : Command} {body : ExecBody} (isExec : command.body = .exec body) :
    devfile.flatten command = .ok [command] := by
  rw [flatten, isExec]

/-- A command that passes its checks can be expanded. -/
theorem flatten_of_validateCommand {command : Command}
    (valid : devfile.validateCommand command = .ok ()) :
    ∃ leaves, devfile.flatten command = .ok leaves ∧ ∀ leaf ∈ leaves, devfile.IsLeaf leaf := by
  cases isBody : command.body with
  | exec body =>
    refine ⟨[command], flatten_of_exec isBody, ?_⟩
    intro leaf mem
    rw [List.mem_singleton.mp mem]
    exact ⟨⟨body, isBody⟩, valid⟩
  | composite body =>
    rw [validateCommand, isBody] at valid
    dsimp only at valid
    split at valid
    · cases valid
    · rw [flatten, isBody]
      exact leavesOfParts_of_validateParts valid

end Devfile

end DevfilePush
