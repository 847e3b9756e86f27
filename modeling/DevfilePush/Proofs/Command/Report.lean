import DevfilePush.Proofs.Command.Choice
import DevfilePush.Proofs.Command.Validity

/-!
What a report of all problems promises for a resolution.

A report goes through the groups it is asked about and through all commands, and finds again
whatever keeps one of these groups from getting a command of its own
(`mem_commandProblems_of_findCommand`). So where a report is empty, a resolution can only fail for
what the user has asked for, or for a group that has to have a command and has none
(`RequestFault`). An id can be asked for that does not exist or belongs to another group; and since
a command without a group is bound to the one it is asked for, a composite command that the report
has nothing against may be refused as the run command.
-/

namespace DevfilePush

namespace Devfile

variable {devfile : Devfile} {overrides : CommandOverrides} {kind : GroupKind} {command : Command}
  {groups : List GroupKind} {override : Option String} {cause : CommandError}

/-! ### What a report finds -/

theorem mem_of_elected (elected : devfile.Elected kind command) : command ∈ devfile.commands := by
  have mem : command ∈ devfile.commandsOf kind := by
    rcases elected with sole | default
    · rw [sole]
      exact List.mem_singleton_self command
    · have chosen : command ∈ (devfile.commandsOf kind).filter (·.isDefault) := by
        rw [default]
        exact List.mem_singleton_self command
      exact (List.mem_filter.mp chosen).1
  exact (List.mem_filter.mp mem).1

/-- The rules of each group asked about are looked at. -/
theorem mem_commandProblems_of_group (mem : kind ∈ groups)
    (problem : groupProblem? kind (devfile.commandsOf kind) = some cause) :
    cause ∈ devfile.commandProblems groups :=
  List.mem_append_left _ (List.mem_filterMap.mpr ⟨kind, mem, problem⟩)

/-- All commands are checked, whichever groups are asked about. -/
theorem mem_commandProblems_of_command (mem : command ∈ devfile.commands)
    (invalid : devfile.validateCommand command = .error cause) :
    cause ∈ devfile.commandProblems groups := by
  refine List.mem_append_right _ (List.mem_filterMap.mpr ⟨command, mem, ?_⟩)
  rw [commandProblem?, invalid]

/-- What keeps a group from getting a command of its own is in the report. -/
theorem mem_commandProblems_of_findCommand (mem : kind ∈ groups)
    (failed : devfile.findCommand kind none = .error cause) :
    cause ∈ devfile.commandProblems groups := by
  rcases defaultCommand_fails_iff.mp failed with
    ⟨undecided, rfl⟩ | ⟨contested, rfl⟩ | ⟨command, elected, invalid⟩
  · exact mem_commandProblems_of_group mem (groupProblem?_of_undecided undecided)
  · exact mem_commandProblems_of_group mem (groupProblem?_of_contested contested)
  · exact mem_commandProblems_of_command (mem_of_elected elected) invalid

/-- Where a report is empty, the groups asked about keep their rules and all commands pass their
checks. -/
theorem commandProblems_eq_nil_iff :
    devfile.commandProblems groups = [] ↔
      (∀ kind ∈ groups, groupProblem? kind (devfile.commandsOf kind) = none) ∧
        ∀ command ∈ devfile.commands, devfile.validateCommand command = .ok () := by
  have passes : ∀ command, devfile.commandProblem? command = none ↔
      devfile.validateCommand command = .ok () := by
    intro command
    rw [commandProblem?]
    cases devfile.validateCommand command <;> simp
  simp only [commandProblems, List.append_eq_nil_iff, List.filterMap_eq_nil_iff, passes]

/-! ### What is left to go wrong -/

/-- What can be wrong with a request for a group's command, by id or for the devfile's own one. -/
inductive RequestFault (devfile : Devfile) (kind : GroupKind) :
    Option String → CommandError → Prop where
  /-- There is no command of the id. -/
  | notFound {id : String} (missing : ∀ command ∈ devfile.commands, command.id ≠ id) :
      RequestFault devfile kind (some id) (.notFound id)
  /-- The command of the id belongs to another group. -/
  | groupMismatch {id : String} {command : Command} {actual : GroupKind}
      (isFirst : devfile.IsFirst id command) (bound : command.groupKind = some actual)
      (ne : actual ≠ kind) : RequestFault devfile kind (some id) (.groupMismatch id kind actual)
  /-- The run command is asked for, and the command of the id is a composite one without a group. -/
  | compositeRunKind {id : String} {command : Command} (isRun : kind = .run)
      (isFirst : devfile.IsFirst id command) (free : command.groupKind = none)
      (isComposite : command.isComposite = true) :
      RequestFault devfile kind (some id) (.compositeRunKind id)
  /-- The devfile is left to itself, and has no command of a group that has to have one. -/
  | groupNotFound (mandatory : kind = .run ∨ kind = .test)
      (absent : ∀ command ∈ devfile.commands, command.groupKind ≠ some kind) :
      RequestFault devfile kind none (.groupNotFound kind)

/-- A command that is in order without a group is in order in any group, but for composite commands
in the run group. -/
theorem validateCommand_inGroup (free : command.groupKind = none)
    (valid : devfile.validateCommand command = .ok ()) :
    devfile.validateCommand (command.inGroup kind) =
      if kind = .run ∧ command.isComposite = true then .error (.compositeRunKind command.id)
      else .ok () := by
  rw [Command.inGroup_of_none free]
  obtain ⟨id, body | body⟩ := command
  · rw [if_neg fun both => absurd both.2 Bool.false_ne_true]
    exact valid
  · have composite : (⟨id, .composite body⟩ : Command).isComposite = true := rfl
    have elsewhere : (⟨id, .composite body⟩ : Command).groupKind ≠ some .run := by
      rw [free]
      simp
    have notRun : body.isRun = false := (isRun_eq_false_iff rfl).mpr elsewhere
    rw [validateCommand] at valid
    simp only [notRun, Bool.false_eq_true, if_false] at valid
    by_cases isRun : kind = .run
    · subst isRun
      rw [if_pos ⟨rfl, composite⟩]
      rfl
    · rw [if_neg (fun both => isRun both.1)]
      have otherGroup : ¬ CompositeBody.isRun { body with group := some ⟨kind, false⟩ } = true := by
        simpa [CompositeBody.isRun] using isRun
      exact (if_neg otherGroup).trans valid

/-- After an empty report, an id is refused only for what `RequestFault` says. -/
theorem overriding_eq_error_iff (inOrder : devfile.commandProblems groups = []) {id : String} :
    devfile.overriding kind id = .error cause ↔ devfile.RequestFault kind (some id) cause := by
  have valid {command : Command} (isFirst : devfile.IsFirst id command) :
      devfile.validateCommand command = .ok () :=
    have mem := List.mem_of_find?_eq_some (command?_eq_some_iff.mpr isFirst)
    (commandProblems_eq_nil_iff.mp inOrder).2 command mem
  rw [overriding_fails_iff]
  constructor
  · rintro (⟨missing, rfl⟩ | ⟨command, actual, isFirst, bound, ne, rfl⟩ |
      ⟨command, isFirst, free | bound, invalid⟩)
    · exact .notFound missing
    · exact .groupMismatch isFirst bound ne
    · rw [validateCommand_inGroup free (valid isFirst)] at invalid
      split at invalid
      · rename_i refused
        cases invalid
        rw [isFirst.1]
        exact .compositeRunKind refused.1 isFirst free refused.2
      · cases invalid
    · rw [Command.inGroup_of_some bound, valid isFirst] at invalid
      cases invalid
  · intro fault
    cases fault with
    | notFound missing => exact .inl ⟨missing, rfl⟩
    | groupMismatch isFirst bound ne => exact .inr (.inl ⟨_, _, isFirst, bound, ne, rfl⟩)
    | compositeRunKind isRun isFirst free isComposite =>
      refine .inr (.inr ⟨_, isFirst, .inl free, ?_⟩)
      rw [validateCommand_inGroup free (valid isFirst), if_pos ⟨isRun, isComposite⟩, isFirst.1]

theorem isMandatory_iff : kind.isMandatory = true ↔ kind = .run ∨ kind = .test := by
  cases kind <;> decide

/-- A group is not resolved if it finds no command for a reason, or none at all where it has to. -/
theorem resolveCommand_fails_iff :
    devfile.resolveCommand kind override = .error cause ↔
      devfile.findCommand kind override = .error cause ∨
        devfile.findCommand kind override = .ok none ∧ kind.isMandatory = true ∧
          cause = .groupNotFound kind := by
  rw [resolveCommand, Checked.bind_eq_error_iff]
  refine or_congr Iff.rfl ⟨?_, ?_⟩
  · rintro ⟨found, isFound, failed⟩
    cases found with
    | some command => cases failed
    | none =>
      dsimp only at failed
      split at failed
      · rename_i mandatory
        cases failed
        exact ⟨isFound, mandatory, rfl⟩
      · cases failed
  · rintro ⟨isNone, mandatory, rfl⟩
    exact ⟨none, isNone, if_pos mandatory⟩

/-- After an empty report, a group is resolved unless the request is at fault. -/
theorem resolveCommand_eq_error_iff (inOrder : devfile.commandProblems groups = [])
    (mem : kind ∈ groups) :
    devfile.resolveCommand kind override = .error cause ↔
      devfile.RequestFault kind override cause := by
  rw [resolveCommand_fails_iff]
  cases override with
  | none =>
    have found : devfile.findCommand kind none ≠ .error cause := by
      intro failed
      have told := mem_commandProblems_of_findCommand mem failed
      rw [inOrder] at told
      cases told
    have isNone : devfile.findCommand kind none = .ok none ↔
        ∀ command ∈ devfile.commands, command.groupKind ≠ some kind := by
      rw [← commandsOf_eq_nil_iff]
      exact defaultCommand_eq_ok_none_iff
    rw [isNone, isMandatory_iff]
    constructor
    · rintro (failed | ⟨absent, mandatory, rfl⟩)
      · exact absurd failed found
      · exact .groupNotFound mandatory absent
    · intro fault
      cases fault with
      | groupNotFound mandatory absent => exact .inr ⟨absent, mandatory, rfl⟩
  | some id =>
    rw [findCommand_of_id_eq_error_iff, overriding_eq_error_iff inOrder]
    refine or_iff_left ?_
    rintro ⟨isNone, -⟩
    rw [findCommand_of_id] at isNone
    cases overridden : devfile.overriding kind id <;> rw [overridden] at isNone <;> cases isNone

/-! ### Resolutions -/

/-- How a resolution can fail after an empty report. -/
inductive ResolutionFault (devfile : Devfile) (overrides : CommandOverrides) (debug test : Bool) :
    CommandError → Prop where
  /-- Some groups of every push cannot be resolved; all of them are told of. -/
  | push {faults : List CommandError} (someFault : faults ≠ [])
      (each : ∀ fault ∈ faults, ∃ kind ∈ pushGroups,
        devfile.RequestFault kind (overrides.get? kind) fault) :
      ResolutionFault devfile overrides debug test
        (.aggregate (faults.map CommandError.message))
  /-- The debug group cannot be resolved. -/
  | debug {cause : CommandError} (asked : debug = true)
      (fault : devfile.RequestFault .debug overrides.debug cause) :
      ResolutionFault devfile overrides debug test cause
  /-- The test group cannot be resolved. -/
  | test {cause : CommandError} (asked : test = true)
      (fault : devfile.RequestFault .test overrides.test cause) :
      ResolutionFault devfile overrides debug test cause

/-- What a group of a push cannot be resolved for. -/
def unresolved? (devfile : Devfile) (overrides : CommandOverrides) (kind : GroupKind) :
    Option CommandError :=
  match devfile.resolveCommand kind (overrides.get? kind) with
  | .ok _ => none
  | .error cause => some cause

theorem unresolved?_eq_some_iff :
    devfile.unresolved? overrides kind = some cause ↔
      devfile.resolveCommand kind (overrides.get? kind) = .error cause := by
  unfold unresolved?
  cases devfile.resolveCommand kind (overrides.get? kind) <;> simp

/-- What is told of a group is the message of the error that it cannot be resolved for. -/
theorem unresolvedMessage?_eq_map :
    devfile.unresolvedMessage? overrides =
      fun kind => (devfile.unresolved? overrides kind).map CommandError.message := by
  funext kind
  unfold unresolvedMessage? unresolved?
  cases devfile.resolveCommand kind (overrides.get? kind) <;> rfl

theorem mem_resolutionGroups_of_push {debug test : Bool} (mem : kind ∈ pushGroups) :
    kind ∈ resolutionGroups debug test :=
  List.mem_append_left _ (List.mem_append_left _ mem)

/-- A push fails for one of its groups, each of which the report has been asked about. -/
theorem resolutionFault_of_resolvePushSet {debug test : Bool}
    (inOrder : devfile.commandProblems (resolutionGroups debug test) = [])
    (failed : devfile.resolvePushSet overrides = .error cause) :
    devfile.ResolutionFault overrides debug test cause := by
  obtain ⟨someMessage, rfl⟩ := resolvePushSet_eq_error_iff.mp failed
  rw [unresolvedMessage?_eq_map, ← List.map_filterMap] at someMessage ⊢
  refine .push (fun noFault => someMessage (by rw [noFault]; rfl)) fun fault mem => ?_
  obtain ⟨kind, isPush, unresolved⟩ := List.mem_filterMap.mp mem
  refine ⟨kind, isPush, ?_⟩
  rw [← resolveCommand_eq_error_iff inOrder (mem_resolutionGroups_of_push isPush)]
  exact unresolved?_eq_some_iff.mp unresolved

/-- The test command is asked for like that of any other group. -/
theorem resolveCommand_of_resolveTestCommand
    (failed : devfile.resolveTestCommand override = .error cause) :
    devfile.resolveCommand .test override = .error cause := by
  rcases Checked.bind_eq_error_iff.mp failed with failed | ⟨found, isFound, failed⟩
  · exact failed
  · obtain ⟨command, rfl⟩ := exists_of_resolveCommand rfl isFound
    cases failed

/-- A resolution fails for its push, for the debug command or for the test command, and for the
latter two on demand only. -/
theorem resolutionFault_of_resolution {debug test : Bool}
    (inOrder : devfile.commandProblems (resolutionGroups debug test) = [])
    (failed : devfile.resolution overrides debug test = .error cause) :
    devfile.ResolutionFault overrides debug test cause := by
  rw [resolution_of_inOrder inOrder] at failed
  rcases Checked.bind_eq_error_iff.mp failed with failed | ⟨commands, -, failed⟩
  · exact resolutionFault_of_resolvePushSet inOrder failed
  rcases Checked.bind_eq_error_iff.mp failed with failed | ⟨debugCommand, -, failed⟩
  · obtain ⟨asked, failed⟩ := onDemand_eq_error_iff.mp failed
    have mem : .debug ∈ resolutionGroups debug test := by simp [resolutionGroups, asked]
    exact .debug asked ((resolveCommand_eq_error_iff inOrder mem).mp failed)
  rcases Checked.bind_eq_error_iff.mp failed with failed | ⟨testCommand, -, failed⟩
  · obtain ⟨asked, failed⟩ := onDemand_eq_error_iff.mp failed
    have mem : .test ∈ resolutionGroups debug test := by simp [resolutionGroups, asked]
    have unresolved := resolveCommand_of_resolveTestCommand (Checked.map_eq_error_iff.mp failed)
    exact .test asked ((resolveCommand_eq_error_iff inOrder mem).mp unresolved)
  · cases failed

/-- A report leaves out nothing that keeps a group from getting a command of its own, so after an
empty one a resolution fails only for what it has been asked. -/
theorem report_spec (devfile : Devfile) :
    (∀ groups, ∀ kind ∈ groups, ∀ cause, devfile.findCommand kind none = .error cause →
      cause ∈ devfile.commandProblems groups) ∧
    ∀ overrides debug test, devfile.commandProblems (resolutionGroups debug test) = [] →
      (∀ kind ∈ resolutionGroups debug test, ∀ cause,
        devfile.resolveCommand kind (overrides.get? kind) = .error cause ↔
          devfile.RequestFault kind (overrides.get? kind) cause) ∧
      ∀ cause, devfile.resolution overrides debug test = .error cause →
        devfile.ResolutionFault overrides debug test cause := by
  refine ⟨fun _ _ mem _ => mem_commandProblems_of_findCommand mem, ?_⟩
  intro overrides debug test inOrder
  exact ⟨fun _ mem _ => resolveCommand_eq_error_iff inOrder mem,
    fun _ => resolutionFault_of_resolution inOrder⟩

/-- A command to be run, and a composite one that is not meant to be. -/
def bundled : Devfile :=
  { components := [⟨"main", .container { image := "alpine" }⟩]
    commands :=
      [⟨"serve", .exec { component := "main", commandLine := "make", group := some ⟨.run, true⟩ }⟩,
        .ofCommands "all" ["serve"]] }

/-- Both commands are in order, as long as the composite one is in no group. -/
theorem commandProblems_bundled (debug test : Bool) :
    bundled.commandProblems (resolutionGroups debug test) = [] := by
  refine commandProblems_eq_nil_iff.mpr ⟨?_, List.forall_mem_cons.mpr ⟨by rfl, ?_⟩⟩
  · cases debug <;> cases test <;> decide
  · refine List.forall_mem_singleton.mpr (validateCommand_eq_ok_iff_passes.mpr ?_)
    refine (passes_composite_iff rfl).mpr ⟨rfl, validateParts_eq_ok_iff.mpr ⟨by decide +kernel, ?_⟩⟩
    exact List.forall_mem_singleton.mpr
      ⟨_, commandByKey?_eq_some_iff.mp (by rfl), (passes_exec_iff rfl).mpr rfl⟩

/-- A report says nothing against the composite command, but it cannot be the run command. -/
theorem report_bundled :
    bundled.commandProblems (resolutionGroups false false) = [] ∧
      bundled.resolveCommand .run (some "all") = .error (.compositeRunKind "all") := by
  have inOrder := commandProblems_bundled false false
  obtain ⟨-, promises⟩ := report_spec bundled
  obtain ⟨faults, -⟩ := promises { run := some "all" } false false inOrder
  refine ⟨inOrder, (faults .run (by decide) _).mpr ?_⟩
  exact .compositeRunKind rfl (command?_eq_some_iff.mp (by rfl)) rfl rfl

end Devfile

end DevfilePush
