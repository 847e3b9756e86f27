import DevfilePush.Command.Index
import DevfilePush.Failure

/-!
The exec commands that a command stands for.

A composite command stands for what its parts stand for, from left to right; a part
named twice is there twice.
-/

namespace DevfilePush

/-- The exec commands of the parts of the composite command `owner`. `path` holds the
keys of the composite commands around them, that of `owner` included. -/
def Devfile.leavesOfParts (devfile : Devfile) (path : List String) (owner : String) :
    List String → Except CommandError (List Command)
  | [] => .ok []
  | subId :: rest =>
    match _ : devfile.commandByKey? (Text.lowercase subId) with
    | none => .error (.compositeMissingSubcommand owner subId)
    | some sub =>
      match sub.body with
      | .exec _ => do
        return sub :: (← devfile.leavesOfParts path owner rest)
      | .composite body =>
        if _ : Text.lowercase subId ∈ path then .error (.compositeSelfReference sub.id)
        else do
          let leaves ← devfile.leavesOfParts (Text.lowercase subId :: path) sub.id body.commands
          return leaves ++ (← devfile.leavesOfParts path owner rest)
  termination_by parts => (devfile.unvisited path, parts.length)
  decreasing_by
    · exact Prod.Lex.right _ (by simp)
    · exact Prod.Lex.left _ _
        (Devfile.unvisited_cons_lt (Devfile.mem_commandKeys_of_commandByKey? ‹_›) ‹_›)
    · exact Prod.Lex.right _ (by simp)

/-- The exec commands that a command stands for, in the order in which they run. -/
def Devfile.flatten (devfile : Devfile) (command : Command) :
    Except CommandError (List Command) :=
  match command.body with
  | .exec _ => .ok [command]
  | .composite body => devfile.leavesOfParts [command.key] command.id body.commands

end DevfilePush
