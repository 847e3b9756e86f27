import DevfilePush.Proofs.Command.Expansion
import DevfilePush.Proofs.Synthesis.Event

/-!
Two ways of taking a composite command apart.

An event puts the parts of a composite command in its place, one level deep, and refuses parts that
are composite as well. The expansion of a command goes as deep as there are parts. They are
separate recursions, but whatever an event accepts the other one takes apart in the same way, so an
event stands for the expansions of what its ids name, one after another (`expandEvent_spec`).
-/

namespace DevfilePush.Devfile

variable {devfile : Devfile} {id owner : String} {path parts : List String} {command : Command}
  {event : LifecycleEvent} {group commands : List Command}

/-! ### Failures -/

/-- What keeps an id of an event from being expanded: it names no command, or a composite command
with a part that does not exist or is composite as well. -/
def Inexpandable (devfile : Devfile) (id : String) : Prop :=
  devfile.Unknown id ∨ ∃ named body, devfile.Names id named ∧ named.body = .composite body ∧
    ∃ subId ∈ body.commands, devfile.Unknown subId ∨
      ∃ sub inner, devfile.Names subId sub ∧ sub.body = .composite inner

theorem EventFault.inexpandable {cause : SynthesisError} (fault : devfile.EventFault id cause) :
    devfile.Inexpandable id := by
  cases fault with
  | unknown missing => exact .inl missing
  | unknownPart found isComposite mem missing =>
    exact .inr ⟨_, _, found, isComposite, _, mem, .inl missing⟩
  | nested found isComposite mem foundPart isNested =>
    exact .inr ⟨_, _, found, isComposite, _, mem, .inr ⟨_, _, foundPart, isNested⟩⟩

theorem Inexpandable.exists_fault (inexpandable : devfile.Inexpandable id) :
    ∃ cause, devfile.EventFault id cause := by
  rcases inexpandable with missing | ⟨named, body, found, isComposite, subId, mem, fault⟩
  · exact ⟨_, .unknown missing⟩
  rcases fault with missing | ⟨sub, inner, foundPart, isNested⟩
  · exact ⟨_, .unknownPart found isComposite mem missing⟩
  · exact ⟨_, .nested found isComposite mem foundPart isNested⟩

/-- The expansion of an event fails exactly when one of its ids cannot be expanded. -/
theorem expandEvent_fails_iff :
    (∃ cause, devfile.expandEvent event = .error cause) ↔
      ∃ id ∈ devfile.eventIds event, devfile.Inexpandable id := by
  constructor
  · rintro ⟨cause, failed⟩
    obtain ⟨id, mem, fault⟩ := expandEvent_yields.error failed
    exact ⟨id, mem, fault.inexpandable⟩
  · rintro ⟨id, mem, inexpandable⟩
    obtain ⟨cause, fault⟩ := inexpandable.exists_fault
    cases expanded : devfile.expandEvent event with
    | ok commands => exact absurd ((expandEvent_yields.ok expanded).1 id mem) fault.unfit
    | error cause => exact ⟨cause, rfl⟩

/-! ### The two expansions -/

/-- A part that an event accepts is an exec command. -/
theorem exec_of_eventPart {subId : String} (done : devfile.eventPart owner subId = .ok command) :
    devfile.Names subId command ∧ ∃ body, command.body = .exec body := by
  obtain ⟨sub, found, done⟩ := Checked.bind_eq_ok_iff.mp done
  cases isBody : sub.body with
  | exec body =>
    rw [isBody] at done
    cases done
    exact ⟨eventCommand_yields.ok found, body, isBody⟩
  | composite body =>
    rw [isBody] at done
    cases done

/-- So the parts that an event accepts are expanded to themselves, inside whichever command. -/
theorem leavesOfParts_of_eventParts (done : parts.mapM (devfile.eventPart owner) = .ok group) :
    devfile.leavesOfParts path owner parts = .ok group := by
  have all := Checked.forall₂_of_mapM_eq_ok done
  clear done
  induction all with
  | nil => rw [leavesOfParts]
  | cons isPart _ ih =>
    obtain ⟨found, body, isExec⟩ := exec_of_eventPart isPart
    exact leavesOfParts_cons_eq_ok_iff.mpr ⟨_, found, _, expand_of_exec isExec, _, ih, rfl⟩

/-- An id of an event is expanded like the command that it names. -/
theorem exists_flatten_of_expandEventId (expanded : devfile.expandEventId id = .ok group) :
    ∃ named, devfile.Names id named ∧ devfile.flatten named = .ok group := by
  obtain ⟨named, found, expanded⟩ := Checked.bind_eq_ok_iff.mp expanded
  refine ⟨named, eventCommand_yields.ok found, ?_⟩
  cases isBody : named.body with
  | exec body =>
    rw [isBody] at expanded
    cases expanded
    exact flatten_of_exec isBody
  | composite body =>
    rw [isBody] at expanded
    rw [flatten, isBody]
    exact leavesOfParts_of_eventParts expanded

/-- An event cannot be expanded exactly when one of its ids names no command, or a composite
command whose parts are not all exec commands. Otherwise it stands for exec commands, and they are
those that the commands named by its ids stand for, one id after another. -/
theorem expandEvent_spec (devfile : Devfile) (event : LifecycleEvent) :
    ((∃ cause, devfile.expandEvent event = .error cause) ↔
        ∃ id ∈ devfile.eventIds event, devfile.Inexpandable id) ∧
      ∀ commands, devfile.expandEvent event = .ok commands →
        (∀ command ∈ commands, ∃ body, command.body = .exec body) ∧
        ∃ groups, commands = groups.flatten ∧
          List.Forall₂ (fun id group =>
            ∃ named, devfile.Names id named ∧ devfile.flatten named = .ok group)
            (devfile.eventIds event) groups := by
  refine ⟨expandEvent_fails_iff, fun commands expanded => ⟨fun command mem =>
    exists_exec_of_expandEvent expanded mem, ?_⟩⟩
  obtain ⟨groups, done, same⟩ := Checked.bind_eq_ok_iff.mp expanded
  cases same
  exact ⟨groups, rfl, (Checked.forall₂_of_mapM_eq_ok done).imp fun _ _ =>
    exists_flatten_of_expandEventId⟩

/-- A composite command that repeats its parts, one with a name that is declared twice, and one
that comes back to itself. -/
def splicing : Devfile :=
  { commands :=
      [.ofLine "Compile" "main" "make", .ofLine "pack" "main" "tar",
        .ofCommands "All" ["pack", "COMPILE", "Pack"], .ofLine "compile" "main" "make all",
        .ofCommands "loop" ["pack", "Loop"]]
    events := { preStart := ["ALL", "compile", "all"], postStart := ["pack", "loop"] } }

theorem expandEvent_splicing :
    let pack := Command.ofLine "pack" "main" "tar"
    let compile := Command.ofLine "compile" "main" "make all"
    let commands := [pack, compile, pack, compile, pack, compile, pack]
    (splicing.expandEvent .preStart = .ok commands ∧
      ∃ groups, commands = groups.flatten ∧
        List.Forall₂ (fun id group =>
          ∃ named, splicing.Names id named ∧ splicing.flatten named = .ok group)
          ["ALL", "compile", "all"] groups) ∧
      ∃ cause, splicing.expandEvent .postStart = .error cause := by
  intro pack compile commands
  have expanded : splicing.expandEvent .preStart = .ok commands := by rfl
  obtain ⟨-, groups⟩ := (expandEvent_spec splicing .preStart).2 commands expanded
  refine ⟨⟨expanded, groups⟩, (expandEvent_spec splicing .postStart).1.mpr ⟨"loop", by decide, ?_⟩⟩
  have loop : splicing.Names "loop" (.ofCommands "loop" ["pack", "Loop"]) :=
    commandByKey?_eq_some_iff.mp (by rfl)
  have again : splicing.Names "Loop" (.ofCommands "loop" ["pack", "Loop"]) :=
    commandByKey?_eq_some_iff.mp (by rfl)
  exact .inr ⟨_, _, loop, rfl, "Loop", by decide, .inr ⟨_, _, again, rfl⟩⟩

end DevfilePush.Devfile
