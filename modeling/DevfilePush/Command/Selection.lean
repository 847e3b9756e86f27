import DevfilePush.Command.Validation

/-!
Choosing the command of a group.

An id asked for by the user is taken verbatim and wins; a command without a group
then joins the group. Otherwise the group's only command is chosen, or the only one
of several that is its default.
-/

namespace DevfilePush

/-- Command ids asked for by the user, at most one for each group. -/
structure CommandOverrides where
  init : Option String := none
  build : Option String := none
  run : Option String := none
  debug : Option String := none
  test : Option String := none
  deriving DecidableEq, Repr

/-- The id asked for in a group. -/
def CommandOverrides.get? (overrides : CommandOverrides) : GroupKind → Option String
  | .init => overrides.init
  | .build => overrides.build
  | .run => overrides.run
  | .debug => overrides.debug
  | .test => overrides.test

/-- The command if it passes its checks. -/
def Devfile.validated (devfile : Devfile) (command : Command) : Except CommandError Command := do
  devfile.validateCommand command
  return command

/-- The command with the given id, as a command of the group. -/
def Devfile.overriding (devfile : Devfile) (kind : GroupKind) (id : String) :
    Except CommandError Command :=
  match devfile.command? id with
  | none => .error (.notFound id)
  | some command =>
    match command.groupKind with
    | none => devfile.validated (command.withGroup ⟨kind, false⟩)
    | some actual =>
      if actual = kind then devfile.validated command
      else .error (.groupMismatch command.id kind actual)

/-- The command that the devfile itself provides for the group. -/
def Devfile.defaultCommand (devfile : Devfile) (kind : GroupKind) :
    Except CommandError (Option Command) :=
  let candidates := devfile.commandsOf kind
  match groupProblem? kind candidates with
  | some problem => .error problem
  | none =>
    match (candidates.find? (·.isDefault)).or candidates.head? with
    | none => .ok none
    | some command => do return some (← devfile.validated command)

/-- The command of a group, if there is one. -/
def Devfile.findCommand (devfile : Devfile) (kind : GroupKind) (override : Option String) :
    Except CommandError (Option Command) :=
  match override with
  | some id => do return some (← devfile.overriding kind id)
  | none => devfile.defaultCommand kind

/-- The command of a group; a mandatory group has to have one. -/
def Devfile.resolveCommand (devfile : Devfile) (kind : GroupKind) (override : Option String) :
    Except CommandError (Option Command) := do
  match ← devfile.findCommand kind override with
  | some command => return some command
  | none => if kind.isMandatory then throw (.groupNotFound kind) else return none

/-- The test command, which has to be there. -/
def Devfile.resolveTestCommand (devfile : Devfile) (override : Option String) :
    Except CommandError Command := do
  match ← devfile.resolveCommand .test override with
  | some command => return command
  | none => throw (.groupNotFound .test)

end DevfilePush
