import DevfilePush.Command.Index
import DevfilePush.Failure

/-!
Lifecycle events and the exec commands that they run.

An event names commands in any letter case. A composite command stands for its parts,
which have to be exec commands here.
-/

namespace DevfilePush

/-- An event in the life of a component. -/
inductive LifecycleEvent where
  /-- Before the containers start. -/
  | preStart
  /-- After the run command has started. -/
  | postStart
  deriving DecidableEq, Repr

namespace LifecycleEvent

def name : LifecycleEvent → String
  | preStart => "preStart"
  | postStart => "postStart"

def ofName? (name : String) : Option LifecycleEvent :=
  [preStart, postStart].find? fun event => event.name = name

end LifecycleEvent

namespace Devfile

/-- The command ids bound to an event. -/
def eventIds (devfile : Devfile) : LifecycleEvent → List String
  | .preStart => devfile.events.preStart
  | .postStart => devfile.events.postStart

/-- The command that an event refers to. -/
def eventCommand (devfile : Devfile) (id : String) : Except SynthesisError Command :=
  match devfile.commandByKey? (Text.lowercase id) with
  | some command => .ok command
  | none => .error (.unsupportedEvent id)

/-- The exec command that the composite command `owner` refers to. -/
def eventPart (devfile : Devfile) (owner subId : String) : Except SynthesisError Command := do
  let sub ← devfile.eventCommand subId
  match sub.body with
  | .exec _ => return sub
  | .composite _ => throw (.nestedComposite owner sub.id)

/-- The exec commands that one id of an event stands for. -/
def expandEventId (devfile : Devfile) (id : String) : Except SynthesisError (List Command) := do
  let command ← devfile.eventCommand id
  match command.body with
  | .exec _ => return [command]
  | .composite body => body.commands.mapM (devfile.eventPart command.id)

/-- The exec commands of an event, in the order in which they run. -/
def expandEvent (devfile : Devfile) (event : LifecycleEvent) :
    Except SynthesisError (List Command) := do
  return (← (devfile.eventIds event).mapM devfile.expandEventId).flatten

end Devfile

end DevfilePush
