import DevfilePush.Command.Index

/-!
What an id refers to.

Commands are referred to by id in any letter case, and ids may be declared more than once. An id
names the last command that is declared with it (`Devfile.Names`), or none (`Devfile.Unknown`).
This is what looking a command up by its key comes to (`commandByKey?_eq_some_iff`), and whatever
is said of references below is said in these terms.
-/

namespace DevfilePush.Devfile

/-- No command has the id, in any letter case. -/
def Unknown (devfile : Devfile) (id : String) : Prop :=
  ∀ command ∈ devfile.commands, command.key ≠ Text.lowercase id

/-- The id names the command: of those that have it, in any letter case, it is the last one
declared. -/
def Names (devfile : Devfile) (id : String) (command : Command) : Prop :=
  ∃ earlier later, devfile.commands = earlier ++ command :: later ∧
    command.key = Text.lowercase id ∧ ∀ other ∈ later, other.key ≠ Text.lowercase id

variable {devfile : Devfile} {id : String} {command other : Command}

/-- A look-up by the key of an id fails exactly if the id is unknown. -/
theorem commandByKey?_eq_none_iff :
    devfile.commandByKey? (Text.lowercase id) = none ↔ devfile.Unknown id := by
  simp [commandByKey?, Unknown]

/-- The last declared command is the first one from the end. -/
theorem commandByKey?_eq_some_iff :
    devfile.commandByKey? (Text.lowercase id) = some command ↔ devfile.Names id command := by
  rw [commandByKey?, List.find?_eq_some_iff_append, Names]
  simp only [decide_eq_true_eq, Bool.not_eq_true', decide_eq_false_iff_not]
  constructor
  · rintro ⟨isNamed, later, earlier, same, others⟩
    refine ⟨earlier.reverse, later.reverse, ?_, isNamed, ?_⟩
    · rw [← List.reverse_reverse devfile.commands, same]
      simp
    · exact fun other mem => others other (List.mem_reverse.mp mem)
  · rintro ⟨earlier, later, same, isNamed, others⟩
    refine ⟨isNamed, later.reverse, earlier.reverse, ?_, ?_⟩
    · rw [same]
      simp
    · exact fun other mem => others other (List.mem_reverse.mp mem)

namespace Names

theorem key_eq (names : devfile.Names id command) : command.key = Text.lowercase id := by
  obtain ⟨-, -, -, isNamed, -⟩ := names
  exact isNamed

theorem mem (names : devfile.Names id command) : command ∈ devfile.commands := by
  obtain ⟨earlier, later, same, -, -⟩ := names
  rw [same]
  exact List.mem_append_right _ List.mem_cons_self

/-- An id names one command at most. -/
theorem unique (names : devfile.Names id command) (namesOther : devfile.Names id other) :
    command = other := by
  have found := commandByKey?_eq_some_iff.mpr names
  exact Option.some.inj (found.symm.trans (commandByKey?_eq_some_iff.mpr namesOther))

/-- An id that names a command is known. -/
theorem not_unknown (names : devfile.Names id command) : ¬ devfile.Unknown id :=
  fun unknown => unknown command names.mem names.key_eq

end Names

end DevfilePush.Devfile
