import DevfilePush.Command.Validation
import DevfilePush.Proofs.Checked

/-!
What a check comes to, failures included.

A check goes through the parts of a composite command one after another and stops at the first
one that is at fault (`validateParts_eq_forM`). Whatever it stops at lies in a command: a check
never has anything to say about a group or about what the user has asked for
(`concernsCommand_of_validateCommand`).
-/

namespace DevfilePush

/-- Whether the error lies in a command as it stands in the devfile. -/
def CommandError.concernsCommand : CommandError → Bool
  | unknownComponent .. | emptyCommandLine _ | compositeRunKind _ | compositeSelfReference _
  | compositeMissingSubcommand .. => true
  | notFound _ | groupMismatch .. | groupNotFound _ | noDefault _ | multipleDefaults _
  | aggregate _ => false

namespace Devfile

variable {devfile : Devfile} {command : Command} {path parts : List String} {owner : String}
  {cause : CommandError}

/-! ### One command, one part -/

/-- The check of one command, inside composite commands with the keys `path`. -/
def check (devfile : Devfile) (path : List String) (command : Command) : Except CommandError Unit :=
  match command.body with
  | .exec body => devfile.validateExec command.id body
  | .composite body =>
    if body.isRun then .error (.compositeRunKind command.id)
    else devfile.validateParts (command.key :: path) command.id body.commands

/-- The check of one part of the composite command `owner`, whose key is on `path`. -/
def checkPart (devfile : Devfile) (path : List String) (owner subId : String) :
    Except CommandError Unit :=
  if Text.lowercase subId ∈ path then .error (.compositeSelfReference owner)
  else match devfile.commandByKey? (Text.lowercase subId) with
    | none => .error (.compositeMissingSubcommand owner subId)
    | some part => devfile.check path part

/-- A command is checked as if nothing were around it. -/
theorem validateCommand_eq_check : devfile.validateCommand command = devfile.check [] command := by
  unfold validateCommand check
  rfl

theorem check_of_exec {body : ExecBody} (isBody : command.body = .exec body) :
    devfile.check path command = devfile.validateExec command.id body := by
  rw [check, isBody]

/-- A composite command is refused for its group before its parts are looked at. -/
theorem check_of_composite {body : CompositeBody} (isBody : command.body = .composite body) :
    devfile.check path command =
      if body.isRun then .error (.compositeRunKind command.id)
      else devfile.validateParts (command.key :: path) command.id body.commands := by
  rw [check, isBody]

/-- Parts are checked one by one, each from the same path. -/
theorem validateParts_cons (subId : String) (rest : List String) :
    devfile.validateParts path owner (subId :: rest) =
      (do devfile.checkPart path owner subId; devfile.validateParts path owner rest) := by
  rw [validateParts, checkPart]
  split
  · rfl
  · split
    · rename_i missing
      rw [missing]
      rfl
    · rename_i part found
      rw [found]
      dsimp only
      cases isBody : part.body with
      | exec body => rw [check_of_exec isBody]
      | composite body =>
        rw [check_of_composite isBody, key_of_commandByKey? found]
        dsimp only
        split <;> rfl

/-- The check of a list of parts is the loop over them, up to the first failure. -/
theorem validateParts_eq_forM :
    devfile.validateParts path owner parts = forM parts (devfile.checkPart path owner) := by
  induction parts with
  | nil =>
    rw [validateParts, List.forM_nil]
    rfl
  | cons subId rest ih => rw [validateParts_cons, ih, List.forM_cons]

/-! ### Failures -/

theorem concernsCommand_of_validateExec {id : String} {body : ExecBody}
    (failed : devfile.validateExec id body = .error cause) : cause.concernsCommand = true := by
  unfold validateExec at failed
  split at failed
  · cases failed
    rfl
  · split at failed
    · cases failed
      rfl
    · cases failed

/-- Each part is at fault for its reference, for its group, or as a command, and nowhere for
anything that was asked for. -/
theorem concernsCommand_of_validateParts
    (failed : devfile.validateParts path owner parts = .error cause) :
    cause.concernsCommand = true := by
  fun_induction Devfile.validateParts devfile path owner parts with
  | case1 => cases failed
  | case2 | case3 | case5 =>
    cases failed
    rfl
  | case4 path owner subId rest fresh part found body isExec ihRest =>
    rcases Checked.bind_eq_error_iff.mp failed with failed | ⟨-, -, failed⟩
    · exact concernsCommand_of_validateExec failed
    · exact ihRest failed
  | case6 path owner subId rest fresh part found body isComposite notRun ihParts ihRest =>
    rcases Checked.bind_eq_error_iff.mp failed with failed | ⟨-, -, failed⟩
    · exact ihParts failed
    · exact ihRest failed

/-- The check of a command fails for a command, be it the command itself or one of its parts. -/
theorem concernsCommand_of_validateCommand
    (failed : devfile.validateCommand command = .error cause) : cause.concernsCommand = true := by
  unfold validateCommand at failed
  split at failed
  · exact concernsCommand_of_validateExec failed
  · split at failed
    · cases failed
      rfl
    · exact concernsCommand_of_validateParts failed

end Devfile

end DevfilePush
