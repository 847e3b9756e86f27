import DevfilePush.Command.Index
import DevfilePush.Failure
import DevfilePush.Text.Blank

/-!
Which commands of a devfile can be run.

An exec command needs a container and a line; a composite command must not belong to
the run group, must name commands that exist, must not come back to itself, and every
command that it reaches has to be fit to run as well.
-/

namespace DevfilePush

/-! ### Single commands -/

/-- Checks an exec command. -/
def Devfile.validateExec (devfile : Devfile) (id : String) (body : ExecBody) :
    Except CommandError Unit :=
  if body.component = "" ∨ (devfile.container? body.component).isNone then
    .error (.unknownComponent id body.component)
  else if Text.isBlankText body.commandLine then .error (.emptyCommandLine id)
  else .ok ()

/-- Whether a composite command belongs to the run group. -/
def CompositeBody.isRun (body : CompositeBody) : Bool :=
  body.group.any fun group => group.kind = .run

/-- Checks the commands named by the composite command `owner`, in order. `path` holds
the keys of the composite commands around them, that of `owner` included. -/
def Devfile.validateParts (devfile : Devfile) (path : List String) (owner : String) :
    List String → Except CommandError Unit
  | [] => .ok ()
  | subId :: rest =>
    if _ : Text.lowercase subId ∈ path then .error (.compositeSelfReference owner)
    else match _ : devfile.commandByKey? (Text.lowercase subId) with
      | none => .error (.compositeMissingSubcommand owner subId)
      | some sub =>
        match sub.body with
        | .exec body => do
          devfile.validateExec sub.id body
          devfile.validateParts path owner rest
        | .composite body =>
          if body.isRun then .error (.compositeRunKind sub.id)
          else do
            devfile.validateParts (Text.lowercase subId :: path) sub.id body.commands
            devfile.validateParts path owner rest
  termination_by parts => (devfile.unvisited path, parts.length)
  decreasing_by
    · exact Prod.Lex.right _ (by simp)
    · exact Prod.Lex.left _ _
        (Devfile.unvisited_cons_lt (Devfile.mem_commandKeys_of_commandByKey? ‹_›) ‹_›)
    · exact Prod.Lex.right _ (by simp)

/-- Checks a command against the devfile. -/
def Devfile.validateCommand (devfile : Devfile) (command : Command) : Except CommandError Unit :=
  match command.body with
  | .exec body => devfile.validateExec command.id body
  | .composite body =>
    if body.isRun then .error (.compositeRunKind command.id)
    else devfile.validateParts [command.key] command.id body.commands

/-! ### Whole devfiles -/

/-- What is wrong with the commands of one group: with more than one, exactly one has
to be the default. -/
def groupProblem? (kind : GroupKind) (candidates : List Command) : Option CommandError :=
  if candidates.length ≤ 1 then none
  else match candidates.countP (·.isDefault) with
    | 0 => some (.noDefault kind)
    | 1 => none
    | _ => some (.multipleDefaults kind)

/-- What is wrong with one command. -/
def Devfile.commandProblem? (devfile : Devfile) (command : Command) : Option CommandError :=
  match devfile.validateCommand command with
  | .ok () => none
  | .error error => some error

/-- Everything wrong with the given groups and with any command, in this order. -/
def Devfile.commandProblems (devfile : Devfile) (groups : List GroupKind) : List CommandError :=
  (groups.filterMap fun kind => groupProblem? kind (devfile.commandsOf kind)) ++
    devfile.commands.filterMap devfile.commandProblem?

end DevfilePush
