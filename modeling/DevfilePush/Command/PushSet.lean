import DevfilePush.Collection.OrderedMap
import DevfilePush.Command.Selection
import DevfilePush.Devfile.Json

/-!
The commands of one push.

A push needs the commands of the groups `pushGroups`. All failures to resolve them are
reported at once. `Devfile.resolution` is the same question asked by the user, who
then also hears of every other fault of the devfile's commands.
-/

namespace DevfilePush

/-- Commands by group, in the order in which they were resolved. -/
abbrev CommandMap := OrderedMap GroupKind Command

def CommandMap.toJson (commands : CommandMap) : Json :=
  .object (commands.entries.map fun entry => (entry.1.name, entry.2.toJson))

/-- The groups that every push resolves. -/
def pushGroups : List GroupKind :=
  [.init, .build, .run]

/-- Resolves the given groups, after the commands and messages so far. -/
def Devfile.resolveGroups (devfile : Devfile) (overrides : CommandOverrides) :
    List GroupKind → CommandMap → List String → CommandMap × List String
  | [], commands, messages => (commands, messages)
  | kind :: rest, commands, messages =>
    match devfile.resolveCommand kind (overrides.get? kind) with
    | .ok (some command) =>
      devfile.resolveGroups overrides rest (commands.insert kind command) messages
    | .ok none => devfile.resolveGroups overrides rest commands messages
    | .error error => devfile.resolveGroups overrides rest commands (messages ++ [error.message])

/-- The init, build and run commands of a push. -/
def Devfile.resolvePushSet (devfile : Devfile) (overrides : CommandOverrides) :
    Except CommandError CommandMap :=
  let (commands, messages) := devfile.resolveGroups overrides pushGroups .empty []
  if messages.isEmpty then .ok commands else .error (.aggregate messages)

/-- The commands that a push would run, and those of the groups asked for besides. -/
structure Resolution where
  commands : CommandMap
  debug : Option Command
  test : Option Command

def Resolution.toJson (resolution : Resolution) : Json :=
  Json.ofFields
    [("commands", some resolution.commands.toJson),
      ("debug", resolution.debug.map Command.toJson),
      ("test", resolution.test.map Command.toJson)]

/-- Resolves the commands of a push, and the debug and test command where asked for,
provided that nothing at all is wrong with the devfile's commands. -/
def Devfile.resolution (devfile : Devfile) (overrides : CommandOverrides) (debug test : Bool) :
    Except CommandError Resolution := do
  let groups := pushGroups ++ (if debug then [.debug] else []) ++ (if test then [.test] else [])
  let problems := devfile.commandProblems groups
  if !problems.isEmpty then throw (.aggregate (problems.map CommandError.message))
  let commands ← devfile.resolvePushSet overrides
  let debugCommand ←
    if debug then devfile.resolveCommand .debug overrides.debug else pure none
  let testCommand ←
    if test then some <$> devfile.resolveTestCommand overrides.test else pure none
  return ⟨commands, debugCommand, testCommand⟩

end DevfilePush
