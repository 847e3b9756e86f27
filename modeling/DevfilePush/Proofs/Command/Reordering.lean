import DevfilePush.Proofs.Command.Report
import DevfilePush.Proofs.Command.Unfolding
import Mathlib.Data.List.Nodup

/-!
What the order of declarations has to do with commands.

Where no two commands go by one name, in whatever letter case, it makes no difference in which order
a devfile declares its commands and components (`order_irrelevant`). A look-up by id takes the first
command and a reference the last one, but there is only one to be taken; a group counts its commands
and its defaults; and a check only asks whether there is a container of a name. The problems of a
devfile are reported in the order of its commands, and so that order is all that is different.
-/

namespace DevfilePush

/-! ### Look-ups by key -/

/-- Where keys are not repeated, there is one item to be found under each, in any order. -/
theorem find?_eq_some_iff_of_nodup {α κ : Type} [DecidableEq κ] {key : α → κ} {items : List α}
    (distinct : (items.map key).Nodup) {sought : κ} {item : α} :
    (items.find? fun other => key other = sought) = some item ↔
      item ∈ items ∧ key item = sought := by
  constructor
  · intro found
    exact ⟨List.mem_of_find?_eq_some found, by simpa using List.find?_some found⟩
  · rintro ⟨mem, rfl⟩
    cases found : items.find? fun other => key other = key item with
    | none =>
      have missed := List.find?_eq_none.mp found item mem
      simp at missed
    | some other =>
      have same : key other = key item := by simpa using List.find?_some found
      rw [List.inj_on_of_nodup_map distinct (List.mem_of_find?_eq_some found) mem same]

/-- So what is found under a key does not depend on the order. -/
theorem find?_eq_of_perm {α κ : Type} [DecidableEq κ] {key : α → κ} {items others : List α}
    (perm : others.Perm items) (distinct : (items.map key).Nodup) (sought : κ) :
    (others.find? fun other => key other = sought) =
      items.find? fun other => key other = sought := by
  have distinctOthers : (others.map key).Nodup := (perm.map key).nodup_iff.mpr distinct
  ext item
  rw [find?_eq_some_iff_of_nodup distinctOthers, find?_eq_some_iff_of_nodup distinct, perm.mem_iff]

namespace Devfile

variable {devfile other : Devfile} {kind : GroupKind} {command : Command} {path parts : List String}
  {owner id : String}

/-- The commands and components of a devfile, declared in another order. -/
structure Reordered (other devfile : Devfile) : Prop where
  commands : other.commands.Perm devfile.commands
  components : other.components.Perm devfile.components

namespace Reordered

variable (reordered : other.Reordered devfile)

include reordered

/-- A reference takes the last command of its name, which is the only one. -/
theorem commandByKey?_eq (distinct : devfile.commandKeys.Nodup) (key : String) :
    other.commandByKey? key = devfile.commandByKey? key := by
  have perm : other.commands.reverse.Perm devfile.commands.reverse :=
    (List.reverse_perm _).trans (reordered.commands.trans (List.reverse_perm _).symm)
  refine find?_eq_of_perm perm ?_ key
  rw [List.map_reverse, List.nodup_reverse]
  exact distinct

/-- A look-up by id takes the first command of the id. Ids that are the same have the same key, so
it is the only one as well. -/
theorem command?_eq (distinct : devfile.commandKeys.Nodup) (id : String) :
    other.command? id = devfile.command? id := by
  refine find?_eq_of_perm reordered.commands (List.Nodup.of_map Text.lowercase ?_) id
  rw [List.map_map]
  exact distinct

/-- Container names may be repeated: whether there is one of the name is all that counts. -/
theorem isNone_container? (name : String) :
    (other.container? name).isNone = (devfile.container? name).isNone := by
  have perm := (reordered.components.filterMap Component.container?).map (·.1)
  rw [Bool.eq_iff_iff, isNone_container?_iff, isNone_container?_iff]
  exact not_congr perm.mem_iff

/-! ### Checks and expansions -/

theorem validateExec_eq (body : ExecBody) :
    other.validateExec id body = devfile.validateExec id body := by
  rw [validateExec, reordered.isNone_container?, validateExec]

/-- The induction is on how many keys have not been visited, since the parts need not be
smaller. -/
theorem validateParts_eq (distinct : devfile.commandKeys.Nodup) :
    other.validateParts path owner parts = devfile.validateParts path owner parts := by
  generalize bound : devfile.unvisited path = size
  induction size using Nat.strongRecOn generalizing path owner parts with
  | ind size ih =>
    have each : other.checkPart path owner = devfile.checkPart path owner := by
      funext subId
      rw [checkPart, reordered.commandByKey?_eq distinct, checkPart]
      split
      · rfl
      · rename_i fresh
        cases found : devfile.commandByKey? (Text.lowercase subId) with
        | none => rfl
        | some part =>
          dsimp only
          cases isBody : part.body with
          | exec body => rw [check_of_exec isBody, check_of_exec isBody, reordered.validateExec_eq]
          | composite body =>
            -- Entering a command that is not on the path leaves fewer to enter.
            have fewer := unvisited_cons_lt (mem_commandKeys_of_commandByKey? found) fresh
            rw [← key_of_commandByKey? found, bound] at fewer
            rw [check_of_composite isBody, check_of_composite isBody, ih _ fewer rfl]
    rw [validateParts_eq_forM, validateParts_eq_forM, each]

theorem validateCommand_eq (distinct : devfile.commandKeys.Nodup) (command : Command) :
    other.validateCommand command = devfile.validateCommand command := by
  rw [validateCommand_eq_check, validateCommand_eq_check]
  cases isBody : command.body with
  | exec body => rw [check_of_exec isBody, check_of_exec isBody, reordered.validateExec_eq]
  | composite body =>
    rw [check_of_composite isBody, check_of_composite isBody, reordered.validateParts_eq distinct]

theorem flatten_eq (distinct : devfile.commandKeys.Nodup) (command : Command) :
    other.flatten command = devfile.flatten command := by
  have same : other.SameOutlines devfile := fun key =>
    congrArg (Option.map Command.outline) (reordered.commandByKey?_eq distinct key)
  exact same.flatten_eq rfl

/-! ### Groups -/

/-- The commands of a group are the same, in another order. -/
theorem commandsOf_perm (kind : GroupKind) :
    (other.commandsOf kind).Perm (devfile.commandsOf kind) :=
  reordered.commands.filter _

/-- What an election comes to is said by numbers of commands, which a permutation keeps. -/
theorem undecided (undecided : devfile.Undecided kind) : other.Undecided kind := by
  have perm := reordered.commandsOf_perm kind
  obtain ⟨several, noDefault⟩ := undecided
  exact ⟨perm.length_eq ▸ several, fun command mem => noDefault command (perm.mem_iff.mp mem)⟩

theorem contested (contested : devfile.Contested kind) : other.Contested kind := by
  have perm := (reordered.commandsOf_perm kind).filter (·.isDefault)
  rw [Contested, perm.length_eq]
  exact contested

theorem elected (elected : devfile.Elected kind command) : other.Elected kind command := by
  have perm := reordered.commandsOf_perm kind
  rcases elected with sole | default
  · rw [sole] at perm
    exact .inl (List.perm_singleton.mp perm)
  · have defaults := perm.filter (·.isDefault)
    rw [default] at defaults
    exact .inr (List.perm_singleton.mp defaults)

/-- A group has the same problem in any order: it is the one that the election tells. -/
theorem groupProblem?_eq (kind : GroupKind) :
    groupProblem? kind (other.commandsOf kind) = groupProblem? kind (devfile.commandsOf kind) := by
  have perm := reordered.commandsOf_perm kind
  rw [groupProblem?, perm.length_eq, perm.countP_eq, groupProblem?]

/-- The same command is elected, and it passes the same check. -/
theorem defaultCommand_eq (distinct : devfile.commandKeys.Nodup) (kind : GroupKind) :
    other.defaultCommand kind = devfile.defaultCommand kind := by
  rcases election devfile kind with isNil | undecided | contested | ⟨command, elected⟩
  · have perm := reordered.commandsOf_perm kind
    rw [isNil] at perm
    rw [defaultCommand_of_nil isNil, defaultCommand_of_nil perm.eq_nil]
  · rw [defaultCommand_of_undecided undecided,
      defaultCommand_of_undecided (reordered.undecided undecided)]
  · rw [defaultCommand_of_contested contested,
      defaultCommand_of_contested (reordered.contested contested)]
  · rw [defaultCommand_of_elected elected, defaultCommand_of_elected (reordered.elected elected),
      reordered.validateCommand_eq distinct]

theorem overriding_eq (distinct : devfile.commandKeys.Nodup) (kind : GroupKind) (id : String) :
    other.overriding kind id = devfile.overriding kind id := by
  simp only [overriding, validated, reordered.command?_eq distinct,
    reordered.validateCommand_eq distinct]

/-- A group finds the same command, whether it is asked for one by id or not. -/
theorem findCommand_eq (distinct : devfile.commandKeys.Nodup) (kind : GroupKind)
    (override : Option String) :
    other.findCommand kind override = devfile.findCommand kind override := by
  cases override with
  | none => exact reordered.defaultCommand_eq distinct kind
  | some id => rw [findCommand_of_id, findCommand_of_id, reordered.overriding_eq distinct]

/-! ### Pushes and reports -/

/-- Groups are resolved one after another, whatever has been found before. -/
theorem resolveGroups_eq (distinct : devfile.commandKeys.Nodup) {overrides : CommandOverrides}
    {kinds : List GroupKind} {commands : CommandMap} {messages : List String} :
    other.resolveGroups overrides kinds commands messages =
      devfile.resolveGroups overrides kinds commands messages := by
  induction kinds generalizing commands messages with
  | nil => rw [resolveGroups, resolveGroups]
  | cons kind rest ih =>
    rw [resolveGroups, resolveCommand, reordered.findCommand_eq distinct, ← resolveCommand,
      resolveGroups]
    simp only [ih]

/-- A report consists of one part for the groups, in the order asked for, and one for the commands,
in theirs. -/
theorem commandProblems_perm (distinct : devfile.commandKeys.Nodup) (groups : List GroupKind) :
    (other.commandProblems groups).Perm (devfile.commandProblems groups) := by
  have sameGroups : (fun kind => groupProblem? kind (other.commandsOf kind)) =
      fun kind => groupProblem? kind (devfile.commandsOf kind) :=
    funext reordered.groupProblem?_eq
  have sameCommands : other.commandProblem? = devfile.commandProblem? := by
    funext command
    rw [commandProblem?, reordered.validateCommand_eq distinct, commandProblem?]
  rw [commandProblems, sameGroups, sameCommands]
  exact (reordered.commands.filterMap _).append_left _

end Reordered

/-- Where names differ, the order of declarations has no say in which commands are found, in what
they stand for, or in which problems are reported. -/
theorem order_irrelevant (reordered : other.Reordered devfile)
    (distinct : devfile.commandKeys.Nodup) :
    (∀ kind override, other.findCommand kind override = devfile.findCommand kind override) ∧
      (∀ overrides, other.resolvePushSet overrides = devfile.resolvePushSet overrides) ∧
      (∀ command, other.flatten command = devfile.flatten command) ∧
      ∀ groups, (other.commandProblems groups).Perm (devfile.commandProblems groups) := by
  refine ⟨reordered.findCommand_eq distinct, fun overrides => ?_, reordered.flatten_eq distinct,
    reordered.commandProblems_perm distinct⟩
  rw [resolvePushSet, reordered.resolveGroups_eq distinct, resolvePushSet]

/-- A default among two build commands, and two commands that cannot be run. -/
def jumbled : Devfile :=
  { components :=
      [⟨"main", .container { image := "alpine" }⟩, ⟨"tools", .container { image := "busybox" }⟩]
    commands :=
      [.ofLine "compile" "main" "make",
        ⟨"Pack", .exec
          { component := "tools", commandLine := "tar", group := some ⟨.build, true⟩ }⟩,
        ⟨"all", .composite { commands := ["COMPILE", "pack"], group := some ⟨.build, false⟩ }⟩,
        .ofLine "lost" "ghost" "true", .ofLine "silent" "main" " "] }

/-- The same, declared backwards. -/
def backwards : Devfile :=
  { jumbled with
    commands := jumbled.commands.reverse
    components := jumbled.components.reverse }

/-- The default is taken and the problems of two commands are told the other way round. -/
theorem order_irrelevant_backwards :
    backwards.Reordered jumbled ∧ jumbled.commandKeys.Nodup ∧
      backwards.findCommand .build none = jumbled.findCommand .build none ∧
      backwards.resolvePushSet {} = jumbled.resolvePushSet {} ∧
      (backwards.commandProblems pushGroups).Perm (jumbled.commandProblems pushGroups) := by
  have reordered : backwards.Reordered jumbled := ⟨List.reverse_perm _, List.reverse_perm _⟩
  have distinct : jumbled.commandKeys.Nodup := by decide +kernel
  obtain ⟨found, resolved, -, problems⟩ := order_irrelevant reordered distinct
  exact ⟨reordered, distinct, found .build none, resolved {}, problems pushGroups⟩

end Devfile

end DevfilePush
