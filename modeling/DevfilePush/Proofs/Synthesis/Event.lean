import DevfilePush.Proofs.Checked
import DevfilePush.Proofs.Command.Reference
import DevfilePush.Synthesis.Event

/-!
What the ids of an event stand for.

An id stands for the command that it names, and if that is a composite command for its parts, one
level deep. `expandEvent_yields` ties the expansion of an event to this: it answers exactly
the commands that the ids stand for, or it finds fault with one of the ids (`EventFault`).
-/

namespace DevfilePush.Devfile

open Checked (Yields yields_mapM)

/-! ### Ids -/

/-- The id of an event stands for the command: it names it, or it names a composite command
that has it as a part. -/
def StandsFor (devfile : Devfile) (id : String) (command : Command) : Prop :=
  ∃ named, devfile.Names id named ∧
    match named.body with
    | .exec _ => command = named
    | .composite body =>
      ∃ subId ∈ body.commands, devfile.Names subId command

/-- The id of an event names a command, in any letter case. -/
def NamesCommand (devfile : Devfile) (id : String) : Prop :=
  ∃ named, devfile.Names id named

/-- If the id of an event names a composite command, its parts are exec commands. -/
def HasExecParts (devfile : Devfile) (id : String) : Prop :=
  ∀ named body, devfile.Names id named → named.body = .composite body →
    ∀ subId ∈ body.commands, ∃ sub inner, devfile.Names subId sub ∧ sub.body = .exec inner

/-- What is wrong with the id of an event. -/
inductive EventFault (devfile : Devfile) (id : String) : SynthesisError → Prop where
  /-- It names no command. -/
  | unknown (missing : devfile.Unknown id) : EventFault devfile id (.unsupportedEvent id)
  /-- It names a composite command with a part that does not exist. -/
  | unknownPart {named : Command} {body : CompositeBody} {subId : String}
      (found : devfile.Names id named)
      (isComposite : named.body = .composite body) (mem : subId ∈ body.commands)
      (missing : devfile.Unknown subId) :
      EventFault devfile id (.unsupportedEvent subId)
  /-- It names a composite command with a part that is composite as well. -/
  | nested {named sub : Command} {body inner : CompositeBody} {subId : String}
      (found : devfile.Names id named)
      (isComposite : named.body = .composite body) (mem : subId ∈ body.commands)
      (foundPart : devfile.Names subId sub)
      (isNested : sub.body = .composite inner) :
      EventFault devfile id (.nestedComposite named.id sub.id)

theorem EventFault.unfit {devfile : Devfile} {id : String} {cause : SynthesisError}
    (fault : devfile.EventFault id cause) :
    ¬ (devfile.NamesCommand id ∧ devfile.HasExecParts id) := by
  rintro ⟨⟨named, isNamed⟩, parts⟩
  cases fault with
  | unknown missing => exact isNamed.not_unknown missing
  | unknownPart found isComposite mem missing =>
    obtain ⟨sub, inner, foundPart, -⟩ := parts _ _ found isComposite _ mem
    exact foundPart.not_unknown missing
  | nested found isComposite mem foundPart isNested =>
    obtain ⟨sub, inner, isPart, isExec⟩ := parts _ _ found isComposite _ mem
    cases foundPart.unique isPart
    cases isNested.symm.trans isExec

variable {devfile : Devfile} {id subId : String} {event : LifecycleEvent} {command : Command}

/-- The parts of composite commands aside, an id stands for an exec command anyway. -/
theorem StandsFor.exists_exec (stands : devfile.StandsFor id command)
    (parts : devfile.HasExecParts id) : ∃ body, command.body = .exec body := by
  obtain ⟨named, found, stands⟩ := stands
  cases isBody : named.body with
  | exec body =>
    rw [isBody] at stands
    subst stands
    exact ⟨body, isBody⟩
  | composite body =>
    rw [isBody] at stands
    obtain ⟨subId, mem, isPart⟩ := stands
    obtain ⟨sub, inner, foundPart, isExec⟩ := parts named body found isBody subId mem
    cases isPart.unique foundPart
    exact ⟨inner, isExec⟩

/-! ### Expansion -/

theorem eventCommand_yields :
    Yields (devfile.eventCommand id) (devfile.Names id)
      fun cause => devfile.Unknown id ∧ cause = .unsupportedEvent id := by
  unfold eventCommand
  split
  · rename_i command found
    exact commandByKey?_eq_some_iff.mp found
  · rename_i missing
    exact ⟨commandByKey?_eq_none_iff.mp missing, rfl⟩

theorem eventPart_yields {named : Command} {body : CompositeBody}
    (found : devfile.Names id named) (isComposite : named.body = .composite body)
    (mem : subId ∈ body.commands) :
    Yields (devfile.eventPart named.id subId)
      (fun sub => devfile.Names subId sub ∧ ∃ inner, sub.body = .exec inner)
      (devfile.EventFault id) := by
  have isPart : Yields (devfile.eventCommand subId) (devfile.Names subId)
      (devfile.EventFault id) := by
    refine eventCommand_yields.imp_fail ?_
    rintro cause ⟨missing, rfl⟩
    exact .unknownPart found isComposite mem missing
  refine isPart.bind fun sub _ foundPart => ?_
  cases isBody : sub.body with
  | exec inner => exact ⟨foundPart, inner, isBody⟩
  | composite inner => exact .nested found isComposite mem foundPart isBody

/-- What an id of an event expands to is what it stands for. -/
theorem expandEventId_yields :
    Yields (devfile.expandEventId id)
      (fun group => devfile.NamesCommand id ∧ devfile.HasExecParts id ∧
        ∀ command, command ∈ group ↔ devfile.StandsFor id command)
      (devfile.EventFault id) := by
  have isNamed : Yields (devfile.eventCommand id) (devfile.Names id)
      (devfile.EventFault id) := by
    refine eventCommand_yields.imp_fail ?_
    rintro cause ⟨missing, rfl⟩
    exact .unknown missing
  refine isNamed.bind fun named _ found => ?_
  cases isBody : named.body with
  | exec body =>
    refine ⟨⟨named, found⟩, ?_, fun command => ?_⟩
    · intro other composite foundOther isComposite
      cases found.unique foundOther
      cases isBody.symm.trans isComposite
    · rw [List.mem_singleton]
      constructor
      · rintro rfl
        exact ⟨command, found, by rw [isBody]⟩
      · rintro ⟨other, foundOther, same⟩
        cases found.unique foundOther
        rw [isBody] at same
        exact same
  | composite body =>
    have parts : Yields (body.commands.mapM (devfile.eventPart named.id)) _ _ :=
      yields_mapM fun subId mem => eventPart_yields found isBody mem
    refine parts.imp_post fun group done => ⟨⟨named, found⟩, ?_, fun command => ?_⟩
    · intro other composite foundOther isComposite subId mem
      cases found.unique foundOther
      cases isBody.symm.trans isComposite
      obtain ⟨sub, -, foundPart, inner, isExec⟩ := done.1 subId mem
      exact ⟨sub, inner, foundPart, isExec⟩
    · constructor
      · intro mem
        obtain ⟨subId, subMem, foundPart, -⟩ := done.2 command mem
        exact ⟨named, found, by rw [isBody]; exact ⟨subId, subMem, foundPart⟩⟩
      · rintro ⟨other, foundOther, isPart⟩
        cases found.unique foundOther
        rw [isBody] at isPart
        obtain ⟨subId, subMem, foundPart⟩ := isPart
        obtain ⟨sub, mem, again, -⟩ := done.1 subId subMem
        cases foundPart.unique again
        exact mem

/-- An event expands to the commands that its ids stand for. -/
theorem expandEvent_yields :
    Yields (devfile.expandEvent event)
      (fun commands => (∀ id ∈ devfile.eventIds event,
          devfile.NamesCommand id ∧ devfile.HasExecParts id) ∧
        ∀ command, command ∈ commands ↔
          ∃ id ∈ devfile.eventIds event, devfile.StandsFor id command)
      fun cause => ∃ id ∈ devfile.eventIds event, devfile.EventFault id cause := by
  have expands : Yields ((devfile.eventIds event).mapM devfile.expandEventId) _
      fun cause => ∃ id ∈ devfile.eventIds event, devfile.EventFault id cause :=
    yields_mapM fun id mem => expandEventId_yields.imp_fail fun _ fault => ⟨id, mem, fault⟩
  refine expands.bind fun groups _ done => ⟨fun id mem => ?_, fun command => ?_⟩
  · obtain ⟨group, -, named, parts, -⟩ := done.1 id mem
    exact ⟨named, parts⟩
  rw [List.mem_flatten]
  constructor
  · rintro ⟨group, groupMem, mem⟩
    obtain ⟨id, idMem, -, -, stands⟩ := done.2 group groupMem
    exact ⟨id, idMem, (stands command).mp mem⟩
  · rintro ⟨id, idMem, standsFor⟩
    obtain ⟨group, groupMem, -, -, stands⟩ := done.1 id idMem
    exact ⟨group, groupMem, (stands command).mpr standsFor⟩

/-- Every command that an event expands to is an exec command. -/
theorem exists_exec_of_expandEvent {commands : List Command}
    (expanded : devfile.expandEvent event = .ok commands) (mem : command ∈ commands) :
    ∃ body, command.body = .exec body := by
  obtain ⟨fit, stands⟩ := expandEvent_yields.ok expanded
  obtain ⟨id, idMem, standsFor⟩ := (stands command).mp mem
  exact standsFor.exists_exec (fit id idMem).2

end DevfilePush.Devfile
