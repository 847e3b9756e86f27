import DevfilePush.Proofs.Command.Check
import DevfilePush.Proofs.Command.Selection

/-!
How the command of a group is chosen.

Left to itself, the devfile elects a command if it is the only one of the group or the group's only
default; otherwise nobody stands, nobody is the default or too many are. Asked for by id, the first
command of that very id is taken, and bound to the group if it has none. Either way the command has
to pass its checks in the form in which it is handed out, and if it does not, that is the answer
(`findCommand_spec`). A group's rules are never at fault in a check, so what is said of them can be
told from what is said of the command.
-/

namespace DevfilePush

/-- The command as one of the group: as it stands if it has a group, and otherwise bound to the
group, though not as its default. -/
def Command.inGroup (command : Command) (kind : GroupKind) : Command :=
  match command.group with
  | none => command.withGroup ⟨kind, false⟩
  | some _ => command

namespace Command

variable {command : Command} {kind : GroupKind}

theorem group_withGroup {group : CommandGroup} : (command.withGroup group).group = some group := by
  unfold withGroup
  split <;> rfl

/-- A command is in one group at a time. -/
theorem withGroup_withGroup {group other : CommandGroup} :
    (command.withGroup other).withGroup group = command.withGroup group := by
  obtain ⟨id, body | body⟩ := command <;> rfl

theorem groupKind_eq_none_iff : command.groupKind = none ↔ command.group = none :=
  Option.map_eq_none_iff

theorem inGroup_of_none (free : command.groupKind = none) :
    command.inGroup kind = command.withGroup ⟨kind, false⟩ := by
  rw [inGroup, groupKind_eq_none_iff.mp free]

/-- A command that is bound to a group stays as it is, even if it is another group. -/
theorem inGroup_of_some {actual : GroupKind} (bound : command.groupKind = some actual) :
    command.inGroup kind = command := by
  obtain ⟨group, isGroup, -⟩ := Option.map_eq_some_iff.mp bound
  rw [inGroup, isGroup]

end Command

namespace Devfile

variable {devfile : Devfile} {kind : GroupKind} {command : Command} {id : String}
  {cause : CommandError}

/-! ### Left to the devfile -/

/-- Several commands share the group, and none of them is the default. -/
def Undecided (devfile : Devfile) (kind : GroupKind) : Prop :=
  2 ≤ (devfile.commandsOf kind).length ∧
    ∀ command ∈ devfile.commandsOf kind, command.isDefault = false

/-- Several commands of the group are its default. -/
def Contested (devfile : Devfile) (kind : GroupKind) : Prop :=
  2 ≤ ((devfile.commandsOf kind).filter (·.isDefault)).length

/-- The command is the only one of the group, or its only default. -/
def Elected (devfile : Devfile) (kind : GroupKind) (command : Command) : Prop :=
  devfile.commandsOf kind = [command] ∨
    (devfile.commandsOf kind).filter (·.isDefault) = [command]

theorem commandsOf_eq_nil_iff :
    devfile.commandsOf kind = [] ↔ ∀ command ∈ devfile.commands, command.groupKind ≠ some kind := by
  simp only [commandsOf, List.filter_eq_nil_iff, decide_eq_true_eq, ne_eq]

/-- There are no other outcomes of an election. -/
theorem election (devfile : Devfile) (kind : GroupKind) :
    devfile.commandsOf kind = [] ∨ devfile.Undecided kind ∨ devfile.Contested kind ∨
      ∃ command, devfile.Elected kind command := by
  cases defaults : (devfile.commandsOf kind).filter (·.isDefault) with
  | nil =>
    cases candidates : devfile.commandsOf kind with
    | nil => exact .inl rfl
    | cons first others =>
      cases others with
      | nil => exact .inr (.inr (.inr ⟨first, .inl candidates⟩))
      | cons second others =>
        refine .inr (.inl ⟨by simp [candidates], ?_⟩)
        simpa using List.filter_eq_nil_iff.mp defaults
  | cons first others =>
    cases others with
    | nil => exact .inr (.inr (.inr ⟨first, .inr defaults⟩))
    | cons second others => exact .inr (.inr (.inl (by simp [Contested, defaults])))

/-- An undecided group is reported for want of a default. -/
theorem groupProblem?_of_undecided (undecided : devfile.Undecided kind) :
    groupProblem? kind (devfile.commandsOf kind) = some (.noDefault kind) := by
  obtain ⟨several, noDefault⟩ := undecided
  have noDefaults : (devfile.commandsOf kind).countP (·.isDefault) = 0 :=
    List.countP_eq_zero.mpr fun command mem => by simp [noDefault command mem]
  rw [groupProblem?, if_neg (by omega), noDefaults]
  rfl

theorem groupProblem?_of_contested (contested : devfile.Contested kind) :
    groupProblem? kind (devfile.commandsOf kind) = some (.multipleDefaults kind) := by
  unfold Contested at contested
  rw [← List.countP_eq_length_filter] at contested
  have bounded := List.countP_le_length (l := devfile.commandsOf kind) (p := (·.isDefault))
  rw [groupProblem?, if_neg (by omega)]
  split
  · omega
  · omega
  · rfl

/-- Nothing is reported of a group that elects a command. -/
theorem groupProblem?_of_elected (elected : devfile.Elected kind command) :
    groupProblem? kind (devfile.commandsOf kind) = none := by
  rcases elected with sole | default
  · rw [groupProblem?, sole]
    rfl
  · have one : (devfile.commandsOf kind).countP (·.isDefault) = 1 := by
      rw [List.countP_eq_length_filter, default]
      rfl
    rw [groupProblem?, one]
    split <;> rfl

/-- Whoever else may be taken in the absence of a default, the only default comes first. -/
theorem find?_isDefault_or {other : Option Command}
    (default : (devfile.commandsOf kind).filter (·.isDefault) = [command]) :
    ((devfile.commandsOf kind).find? (·.isDefault)).or other = some command := by
  rw [← List.head?_filter, default]
  rfl

/-- An only command is elected as the first one, and an only default as the default. -/
theorem find?_isDefault_of_elected (elected : devfile.Elected kind command) :
    ((devfile.commandsOf kind).find? (·.isDefault)).or (devfile.commandsOf kind).head? =
      some command := by
  rcases elected with sole | default
  · rw [sole, List.find?_singleton]
    split <;> rfl
  · exact find?_isDefault_or default

theorem defaultCommand_of_undecided (undecided : devfile.Undecided kind) :
    devfile.defaultCommand kind = .error (.noDefault kind) := by
  simp only [defaultCommand, groupProblem?_of_undecided undecided]

theorem defaultCommand_of_contested (contested : devfile.Contested kind) :
    devfile.defaultCommand kind = .error (.multipleDefaults kind) := by
  simp only [defaultCommand, groupProblem?_of_contested contested]

/-- Where nobody stands, nobody is elected, and that is no failure. -/
theorem defaultCommand_of_nil (isNil : devfile.commandsOf kind = []) :
    devfile.defaultCommand kind = .ok none := by
  simp only [defaultCommand, isNil]
  rfl

/-- A command that is checked comes back unchanged. -/
theorem validated_eq_map :
    devfile.validated command = (devfile.validateCommand command).map fun _ => command := by
  unfold validated
  cases devfile.validateCommand command <;> rfl

/-- Whoever is elected has to pass the check, and its failure is the answer. -/
theorem defaultCommand_of_elected (elected : devfile.Elected kind command) :
    devfile.defaultCommand kind = (devfile.validateCommand command).map fun _ => some command := by
  simp only [defaultCommand, groupProblem?_of_elected elected, find?_isDefault_of_elected elected,
    validated_eq_map]
  cases devfile.validateCommand command <;> rfl

/-- The outcome of an election can be read off the answer. -/
theorem defaultCommand_eq_ok_none_iff :
    devfile.defaultCommand kind = .ok none ↔ devfile.commandsOf kind = [] := by
  refine ⟨fun done => ?_, defaultCommand_of_nil⟩
  rcases election devfile kind with isNil | undecided | contested | ⟨command, elected⟩
  · exact isNil
  · rw [defaultCommand_of_undecided undecided] at done
    cases done
  · rw [defaultCommand_of_contested contested] at done
    cases done
  · rw [defaultCommand_of_elected elected] at done
    cases valid : devfile.validateCommand command <;> rw [valid] at done <;> cases done

/-- Nothing but the rules of the group and the check of the elected command fails an election. -/
theorem defaultCommand_fails_iff :
    devfile.defaultCommand kind = .error cause ↔
      (devfile.Undecided kind ∧ cause = .noDefault kind) ∨
        (devfile.Contested kind ∧ cause = .multipleDefaults kind) ∨
        ∃ command, devfile.Elected kind command ∧
          devfile.validateCommand command = .error cause := by
  constructor
  · intro failed
    rcases election devfile kind with isNil | undecided | contested | ⟨command, elected⟩
    · rw [defaultCommand_of_nil isNil] at failed
      cases failed
    · rw [defaultCommand_of_undecided undecided] at failed
      cases failed
      exact .inl ⟨undecided, rfl⟩
    · rw [defaultCommand_of_contested contested] at failed
      cases failed
      exact .inr (.inl ⟨contested, rfl⟩)
    · rw [defaultCommand_of_elected elected] at failed
      exact .inr (.inr ⟨command, elected, Checked.map_eq_error_iff.mp failed⟩)
  · rintro (⟨undecided, rfl⟩ | ⟨contested, rfl⟩ | ⟨command, elected, invalid⟩)
    · exact defaultCommand_of_undecided undecided
    · exact defaultCommand_of_contested contested
    · rw [defaultCommand_of_elected elected, invalid]
      rfl

/-- No check of a command ends in an error about its group or about what was asked for. -/
theorem validateCommand_ne (elsewhere : cause.concernsCommand = false) :
    devfile.validateCommand command ≠ .error cause := by
  intro failed
  have concerns := concernsCommand_of_validateCommand failed
  rw [elsewhere] at concerns
  cases concerns

/-- Only an undecided group is told that it has no default, and only of itself. -/
theorem defaultCommand_eq_noDefault_iff {other : GroupKind} :
    devfile.defaultCommand kind = .error (.noDefault other) ↔
      other = kind ∧ devfile.Undecided kind := by
  rw [defaultCommand_fails_iff]
  constructor
  · rintro (⟨undecided, same⟩ | ⟨-, same⟩ | ⟨command, -, invalid⟩)
    · cases same
      exact ⟨rfl, undecided⟩
    · cases same
    · exact absurd invalid (validateCommand_ne rfl)
  · rintro ⟨rfl, undecided⟩
    exact .inl ⟨undecided, rfl⟩

/-- Likewise for a contested group. -/
theorem defaultCommand_eq_multipleDefaults_iff {other : GroupKind} :
    devfile.defaultCommand kind = .error (.multipleDefaults other) ↔
      other = kind ∧ devfile.Contested kind := by
  rw [defaultCommand_fails_iff]
  constructor
  · rintro (⟨-, same⟩ | ⟨contested, same⟩ | ⟨command, -, invalid⟩)
    · cases same
    · cases same
      exact ⟨rfl, contested⟩
    · exact absurd invalid (validateCommand_ne rfl)
  · rintro ⟨rfl, contested⟩
    exact .inr (.inl ⟨contested, rfl⟩)

/-- The devfile's own choice, spelled out with an answer for a group whose rules are kept but which
has nobody to elect. -/
def electedOr (devfile : Devfile) (kind : GroupKind)
    (otherwise : Except CommandError (Option Command)) : Except CommandError (Option Command) :=
  let candidates := devfile.commandsOf kind
  if candidates.isEmpty then .ok none
  else match groupProblem? kind candidates with
    | some problem => .error problem
    | none =>
      match (candidates.find? (·.isDefault)).or
          (candidates.head?.filter fun _ => candidates.length = 1) with
      | some command => (devfile.validateCommand command).map fun _ => some command
      | none => otherwise

/-- That answer is never given. -/
theorem electedOr_eq_defaultCommand (otherwise : Except CommandError (Option Command)) :
    devfile.electedOr kind otherwise = devfile.defaultCommand kind := by
  rcases election devfile kind with isNil | undecided | contested | ⟨command, elected⟩
  · rw [defaultCommand_of_nil isNil, electedOr, isNil]
    rfl
  · have several := undecided.1
    rw [defaultCommand_of_undecided undecided, electedOr, groupProblem?_of_undecided undecided]
    dsimp only
    rw [if_neg]
    intro isEmpty
    rw [List.isEmpty_iff.mp isEmpty] at several
    cases several
  · rw [defaultCommand_of_contested contested, electedOr, groupProblem?_of_contested contested]
    dsimp only
    rw [if_neg]
    intro isEmpty
    rw [Contested, List.isEmpty_iff.mp isEmpty] at contested
    cases contested
  · rw [defaultCommand_of_elected elected, electedOr, groupProblem?_of_elected elected]
    dsimp only
    rcases elected with sole | default
    · rw [sole, List.find?_singleton]
      cases command.isDefault <;> rfl
    · rw [find?_isDefault_or default, if_neg]
      intro isEmpty
      rw [List.isEmpty_iff.mp isEmpty] at default
      cases default

/-! ### Asked for by id -/

/-- The command is the first one of exactly the given id. -/
def IsFirst (devfile : Devfile) (id : String) (command : Command) : Prop :=
  command.id = id ∧ ∃ before after, devfile.commands = before ++ command :: after ∧
    ∀ other ∈ before, other.id ≠ id

/-- Looking up an id takes the first command of the id. Here the letter case counts. -/
theorem command?_eq_some_iff : devfile.command? id = some command ↔ devfile.IsFirst id command := by
  simp only [command?, List.find?_eq_some_iff_append, IsFirst, decide_eq_true_eq, Bool.not_eq_true',
    decide_eq_false_iff_not, ne_eq]

theorem command?_eq_none_iff :
    devfile.command? id = none ↔ ∀ command ∈ devfile.commands, command.id ≠ id := by
  simp only [command?, List.find?_eq_none, decide_eq_true_eq, ne_eq]

theorem overriding_of_none (missing : devfile.command? id = none) :
    devfile.overriding kind id = .error (.notFound id) := by
  rw [overriding, missing]

/-- A command of another group is refused before it is checked. -/
theorem overriding_of_other {actual : GroupKind} (found : devfile.command? id = some command)
    (bound : command.groupKind = some actual) (ne : actual ≠ kind) :
    devfile.overriding kind id = .error (.groupMismatch command.id kind actual) := by
  rw [overriding, found]
  dsimp only
  rw [bound]
  exact if_neg ne

/-- A command that fits is checked and handed out as a command of the group. -/
theorem overriding_of_fits (found : devfile.command? id = some command)
    (fits : command.groupKind = none ∨ command.groupKind = some kind) :
    devfile.overriding kind id =
      (devfile.validateCommand (command.inGroup kind)).map fun _ => command.inGroup kind := by
  rw [overriding, found, ← validated_eq_map]
  dsimp only
  rcases fits with free | bound
  · rw [Command.inGroup_of_none free, free]
  · rw [Command.inGroup_of_some bound, bound]
    exact if_pos rfl

/-- A command that is found is fit for the group or belongs to another one. -/
theorem fits_or_other (command : Command) (kind : GroupKind) :
    (command.groupKind = none ∨ command.groupKind = some kind) ∨
      ∃ actual, command.groupKind = some actual ∧ actual ≠ kind := by
  cases bound : command.groupKind with
  | none => exact .inl (.inl rfl)
  | some actual =>
    by_cases same : actual = kind
    · exact .inl (.inr (congrArg some same))
    · exact .inr ⟨actual, rfl, same⟩

/-- A request fails for its id, for the group of the command, or for the check of the command. -/
theorem overriding_fails_iff :
    devfile.overriding kind id = .error cause ↔
      ((∀ command ∈ devfile.commands, command.id ≠ id) ∧ cause = .notFound id) ∨
        (∃ command actual, devfile.IsFirst id command ∧ command.groupKind = some actual ∧
          actual ≠ kind ∧ cause = .groupMismatch id kind actual) ∨
        ∃ command, devfile.IsFirst id command ∧
          (command.groupKind = none ∨ command.groupKind = some kind) ∧
          devfile.validateCommand (command.inGroup kind) = .error cause := by
  constructor
  · intro failed
    cases found : devfile.command? id with
    | none =>
      rw [overriding_of_none found] at failed
      cases failed
      exact .inl ⟨command?_eq_none_iff.mp found, rfl⟩
    | some command =>
      have isFirst := command?_eq_some_iff.mp found
      rcases fits_or_other command kind with fits | ⟨actual, bound, ne⟩
      · rw [overriding_of_fits found fits] at failed
        exact .inr (.inr ⟨command, isFirst, fits, Checked.map_eq_error_iff.mp failed⟩)
      · rw [overriding_of_other found bound ne] at failed
        cases failed
        rw [isFirst.1]
        exact .inr (.inl ⟨command, actual, isFirst, bound, ne, rfl⟩)
  · rintro (⟨missing, rfl⟩ | ⟨command, actual, isFirst, bound, ne, rfl⟩ |
      ⟨command, isFirst, fits, invalid⟩)
    · exact overriding_of_none (command?_eq_none_iff.mpr missing)
    · rw [overriding_of_other (command?_eq_some_iff.mpr isFirst) bound ne, isFirst.1]
    · rw [overriding_of_fits (command?_eq_some_iff.mpr isFirst) fits, invalid]
      rfl

/-- Whoever is told that a command is not found has asked for an id that no command has. -/
theorem overriding_eq_notFound_iff {name : String} :
    devfile.overriding kind id = .error (.notFound name) ↔
      name = id ∧ ∀ command ∈ devfile.commands, command.id ≠ id := by
  rw [overriding_fails_iff]
  constructor
  · rintro (⟨missing, same⟩ | ⟨command, actual, -, -, -, same⟩ | ⟨command, -, -, invalid⟩)
    · cases same
      exact ⟨rfl, missing⟩
    · cases same
    · exact absurd invalid (validateCommand_ne rfl)
  · rintro ⟨rfl, missing⟩
    exact .inl ⟨missing, rfl⟩

/-- A mismatch names the id, the group asked for and the other group that the command is bound
to. -/
theorem overriding_eq_groupMismatch_iff {name : String} {expected actual : GroupKind} :
    devfile.overriding kind id = .error (.groupMismatch name expected actual) ↔
      (name = id ∧ expected = kind ∧ actual ≠ kind) ∧
        ∃ command, devfile.IsFirst id command ∧ command.groupKind = some actual := by
  rw [overriding_fails_iff]
  constructor
  · rintro (⟨-, same⟩ | ⟨command, other, isFirst, bound, ne, same⟩ | ⟨command, -, -, invalid⟩)
    · cases same
    · cases same
      exact ⟨⟨rfl, rfl, ne⟩, command, isFirst, bound⟩
    · exact absurd invalid (validateCommand_ne rfl)
  · rintro ⟨⟨rfl, rfl, ne⟩, command, isFirst, bound⟩
    exact .inr (.inl ⟨command, actual, isFirst, bound, ne, rfl⟩)

/-! ### Either way -/

theorem findCommand_of_id :
    devfile.findCommand kind (some id) = (devfile.overriding kind id).map some := by
  change (do return some (← devfile.overriding kind id)) = _
  cases devfile.overriding kind id <;> rfl

/-- An id leaves no other way to fail. -/
theorem findCommand_of_id_eq_error_iff :
    devfile.findCommand kind (some id) = .error cause ↔
      devfile.overriding kind id = .error cause := by
  rw [findCommand_of_id, Checked.map_eq_error_iff]

/-- A command taken into the group belongs to it, and differs from what it was in the group alone,
and in that only if it had none. -/
theorem inGroup_spec (fits : command.groupKind = none ∨ command.groupKind = some kind) :
    (command.inGroup kind).groupKind = some kind ∧
      (∀ group, (command.inGroup kind).withGroup group = command.withGroup group) ∧
      (command.groupKind = none → (command.inGroup kind).group = some ⟨kind, false⟩) ∧
      (command.groupKind ≠ none → command.inGroup kind = command) := by
  rcases fits with free | bound
  · rw [Command.inGroup_of_none free]
    exact ⟨groupKind_withGroup, fun _ => Command.withGroup_withGroup,
      fun _ => Command.group_withGroup, fun bound => absurd free bound⟩
  · rw [Command.inGroup_of_some bound]
    refine ⟨bound, fun _ => rfl, fun free => ?_, fun _ => rfl⟩
    rw [bound] at free
    cases free

end Devfile

end DevfilePush
