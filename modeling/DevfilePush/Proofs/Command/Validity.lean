import DevfilePush.Proofs.Command.Check
import DevfilePush.Proofs.Command.Trail

/-!
Which commands pass their checks.

A check walks from a command to its parts and keeps the keys of the composite commands around it.
What it comes to is said here without the walk: a command is sound when every trail from it stays
out of the run group, finds what its sub-ids refer to, never names a command that it is inside of,
and ends at exec commands that have a container and a line (`validateCommand_succeeds_iff`). A name
that is met again on another branch is not a circle: each branch is checked as if it were the only
one.
-/

namespace DevfilePush

/-- The command belongs to a container of the devfile and has something to run. -/
structure ExecBody.Runs (devfile : Devfile) (body : ExecBody) : Prop where
  named : body.component ≠ ""
  housed : body.component ∈ devfile.containers.map (·.1)
  spoken : ∃ c ∈ body.commandLine.toList, Text.isBlank c = false

namespace Devfile

variable {devfile : Devfile} {start command : Command} {path parts : List String} {owner : String}

/-- Nothing that a trail from `start` comes to is amiss. -/
structure Sound (devfile : Devfile) (start : Command) : Prop where
  /-- No composite command is in the run group. -/
  notRun : ∀ command earlier, devfile.Trail start (command :: earlier) →
    command.isComposite = true → command.groupKind ≠ some .run
  /-- Every sub-id refers to a command. -/
  known : ∀ command earlier, devfile.Trail start (command :: earlier) →
    ∀ subId ∈ command.parts, ∃ part, devfile.Names subId part
  /-- No sub-id names a composite command that the trail is inside of. -/
  acyclic : ∀ command earlier, devfile.Trail start (command :: earlier) →
    ∀ subId ∈ command.parts, ∀ other ∈ command :: earlier, Text.lowercase subId ≠ other.key
  /-- Every exec command can be run. -/
  runs : ∀ command earlier, devfile.Trail start (command :: earlier) →
    ∀ body, command.body = .exec body → body.Runs devfile

/-! ### One command -/

/-- There is no container of the name exactly if no container component has it. -/
theorem isNone_container?_iff {name : String} :
    (devfile.container? name).isNone = true ↔ name ∉ devfile.containers.map (·.1) := by
  rw [container?, Option.isNone_map, Option.isNone_iff_eq_none, List.find?_eq_none, List.mem_map]
  simp only [decide_eq_true_eq, not_exists, not_and]

/-- The check of an exec command asks for what it needs in order to run, and for nothing else. -/
theorem validateExec_eq_ok_iff {id : String} {body : ExecBody} :
    devfile.validateExec id body = .ok () ↔ body.Runs devfile := by
  have spoken : Text.isBlankText body.commandLine = false ↔
      ∃ c ∈ body.commandLine.toList, Text.isBlank c = false := by
    simp [Text.isBlankText]
  simp only [validateExec, isNone_container?_iff]
  constructor
  · intro valid
    split at valid
    · cases valid
    · rename_i known
      obtain ⟨named, housed⟩ := not_or.mp known
      split at valid
      · cases valid
      · rename_i notBlank
        exact ⟨named, not_not.mp housed, spoken.mp (Bool.eq_false_iff.mpr notBlank)⟩
  · rintro ⟨named, housed, isSpoken⟩
    rw [if_neg (not_or.mpr ⟨named, not_not.mpr housed⟩), if_neg]
    rw [spoken.mpr isSpoken]
    exact Bool.false_ne_true

/-- To be a run command is to be in the run group. -/
theorem isRun_eq_false_iff {body : CompositeBody} (isBody : command.body = .composite body) :
    body.isRun = false ↔ command.groupKind ≠ some .run := by
  rw [CompositeBody.isRun, Command.groupKind, Command.group, isBody]
  cases isGroup : body.group <;> simp [isGroup]

/-- Nothing is wrong with the command itself, inside composite commands with the keys `path`. -/
def Fine (devfile : Devfile) (path : List String) (command : Command) : Prop :=
  (match command.body with
    | .exec body => body.Runs devfile
    | .composite _ => command.groupKind ≠ some .run) ∧
    ∀ subId ∈ command.parts, Text.lowercase subId ∉ command.key :: path

/-- The command passes its checks inside composite commands with the keys `path`. -/
def Passes (devfile : Devfile) (path : List String) (command : Command) : Prop :=
  match command.body with
  | .exec body => devfile.validateExec command.id body = .ok ()
  | .composite body =>
    body.isRun = false ∧
      devfile.validateParts (command.key :: path) command.id body.commands = .ok ()

theorem passes_exec_iff {body : ExecBody} (isBody : command.body = .exec body) :
    devfile.Passes path command ↔ devfile.validateExec command.id body = .ok () := by
  rw [Passes, isBody]

theorem passes_composite_iff {body : CompositeBody} (isBody : command.body = .composite body) :
    devfile.Passes path command ↔ body.isRun = false ∧
      devfile.validateParts (command.key :: path) command.id body.commands = .ok () := by
  rw [Passes, isBody]

/-- A check succeeds where the command passes. -/
theorem check_eq_ok_iff : devfile.check path command = .ok () ↔ devfile.Passes path command := by
  cases isBody : command.body with
  | exec body => rw [check_of_exec isBody, passes_exec_iff isBody]
  | composite body =>
    rw [check_of_composite isBody, passes_composite_iff isBody]
    cases body.isRun <;> simp

theorem validateCommand_eq_ok_iff_passes :
    devfile.validateCommand command = .ok () ↔ devfile.Passes [] command := by
  rw [validateCommand_eq_check, check_eq_ok_iff]

/-- A part has to name a command, and none that it is inside of. -/
theorem checkPart_eq_ok_iff {subId : String} :
    devfile.checkPart path owner subId = .ok () ↔
      Text.lowercase subId ∉ path ∧
        ∃ part, devfile.Names subId part ∧ devfile.Passes path part := by
  simp only [← commandByKey?_eq_some_iff]
  rw [checkPart]
  split
  · rename_i circular
    simp [circular]
  · rename_i fresh
    cases found : devfile.commandByKey? (Text.lowercase subId) with
    | none => simp
    | some part => simp [fresh, check_eq_ok_iff]

/-- All parts have to, and none of them has a say in what the others may be. -/
theorem validateParts_eq_ok_iff :
    devfile.validateParts path owner parts = .ok () ↔
      (∀ subId ∈ parts, Text.lowercase subId ∉ path) ∧
        ∀ subId ∈ parts, ∃ part, devfile.Names subId part ∧ devfile.Passes path part := by
  induction parts with
  | nil => simp [validateParts]
  | cons subId rest ih =>
    rw [validateParts_cons, Checked.bind_unit_eq_ok_iff, checkPart_eq_ok_iff, ih,
      List.forall_mem_cons, List.forall_mem_cons]
    exact and_and_and_comm

/-- What a check comes to at one command, and what is left to its parts. -/
theorem passes_iff :
    devfile.Passes path command ↔ devfile.Fine path command ∧
      ∀ subId ∈ command.parts, ∃ part, devfile.Names subId part ∧
        devfile.Passes (command.key :: path) part := by
  cases isBody : command.body with
  | exec body =>
    rw [passes_exec_iff isBody, validateExec_eq_ok_iff, Fine, Command.parts_of_exec isBody, isBody]
    simp
  | composite body =>
    rw [passes_composite_iff isBody, isRun_eq_false_iff isBody, validateParts_eq_ok_iff, Fine,
      Command.parts_of_composite isBody, isBody, and_assoc]

/-! ### All commands on a trail -/

/-- Soundness is a matter of each command that a trail comes to. -/
theorem sound_iff :
    devfile.Sound start ↔ ∀ command earlier, devfile.Trail start (command :: earlier) →
      devfile.Fine (earlier.map Command.key) command ∧
        ∀ subId ∈ command.parts, ∃ part, devfile.Names subId part := by
  constructor
  · intro sound command earlier trail
    refine ⟨⟨?_, ?_⟩, sound.known command earlier trail⟩
    · cases isBody : command.body with
      | exec body => exact sound.runs command earlier trail body isBody
      | composite body =>
        exact sound.notRun command earlier trail (Command.isComposite_of_composite isBody)
    · intro subId isPart circular
      rw [← List.map_cons] at circular
      obtain ⟨other, mem, isKey⟩ := List.mem_map.mp circular
      exact sound.acyclic command earlier trail subId isPart other mem isKey.symm
  · intro all
    refine ⟨?_, fun command earlier trail => (all command earlier trail).2, ?_, ?_⟩
    · intro command earlier trail isComposite
      obtain ⟨⟨fits, -⟩, -⟩ := all command earlier trail
      cases isBody : command.body with
      | exec body =>
        rw [Command.isComposite_of_exec isBody] at isComposite
        cases isComposite
      | composite body =>
        rw [isBody] at fits
        exact fits
    · intro command earlier trail subId isPart other mem same
      obtain ⟨⟨-, fresh⟩, -⟩ := all command earlier trail
      apply fresh subId isPart
      rw [same, ← List.map_cons]
      exact List.mem_map_of_mem mem
    · intro command earlier trail body isBody
      obtain ⟨⟨fits, -⟩, -⟩ := all command earlier trail
      rw [isBody] at fits
      exact fits

/-- If no sub-id names a command that the trail is inside of, none is entered again. -/
theorem fresh_of_fine
    (fine : ∀ command earlier, devfile.Trail start (command :: earlier) →
      devfile.Fine (earlier.map Command.key) command)
    (command : Command) (earlier : List Command)
    (trail : devfile.Trail start (command :: earlier)) :
    command.key ∉ earlier.map Command.key := by
  cases trail with
  | start => exact List.not_mem_nil
  | step trail isPart names =>
    rw [names.key_eq]
    exact (fine _ _ trail).2 _ isPart

/-- A command passes its checks exactly if it is sound. -/
theorem validateCommand_eq_ok_iff_sound :
    devfile.validateCommand start = .ok () ↔ devfile.Sound start := by
  rw [validateCommand_eq_ok_iff_passes, sound_iff]
  exact walk_iff (fun _ _ => passes_iff) fun fine command earlier trail _ =>
    fresh_of_fine fine command earlier trail

/-- Which commands pass their checks: an exec command that can be run, and a composite command from
which every trail is in order. Of the parts of a composite command each is checked as if there were
no others, so two of them may well come to the same command. -/
theorem validateCommand_succeeds_iff (devfile : Devfile) :
    (∀ id body, devfile.validateCommand ⟨id, .exec body⟩ = .ok () ↔ body.Runs devfile) ∧
      (∀ id body, devfile.validateCommand ⟨id, .composite body⟩ = .ok () ↔
        devfile.Sound ⟨id, .composite body⟩) ∧
      ∀ id (body : CompositeBody) left right,
        devfile.validateCommand ⟨id, .composite { body with commands := left ++ right }⟩ = .ok () ↔
          devfile.validateCommand ⟨id, .composite { body with commands := left }⟩ = .ok () ∧
            devfile.validateCommand ⟨id, .composite { body with commands := right }⟩ = .ok () := by
  refine ⟨fun id body => validateExec_eq_ok_iff, fun id body => validateCommand_eq_ok_iff_sound, ?_⟩
  intro id body left right
  have each : ∀ commands,
      devfile.validateCommand ⟨id, .composite { body with commands := commands }⟩ = .ok () ↔
        body.isRun = false ∧ (∀ subId ∈ commands, Text.lowercase subId ∉ [Text.lowercase id]) ∧
          ∀ subId ∈ commands, ∃ part, devfile.Names subId part ∧
            devfile.Passes [Text.lowercase id] part := by
    intro commands
    rw [validateCommand_eq_ok_iff_passes, passes_composite_iff rfl, validateParts_eq_ok_iff]
    exact Iff.rfl
  rw [each, each, each, List.forall_mem_append, List.forall_mem_append, and_and_and_comm]
  exact and_and_left

end Devfile

end DevfilePush
