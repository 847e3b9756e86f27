import DevfilePush.Proofs.Command.Reference

/-!
Where the references between commands lead.

A trail starts at a command and goes from each composite command to a command that one of its
sub-ids names (`Devfile.Names`). The start need not be a command of the devfile, and what the
devfile holds under its name may be another one. Trails are not limited in length: where commands
refer to each other in a circle, they go round it for ever.

Whoever walks along the references and keeps the keys on the way examines one command after
another, each of them in view of the keys above it. `walk_iff` says what such a walk comes to in
terms of trails, for any such examination that lets no composite command be entered again.
-/

namespace DevfilePush

namespace Command

variable {command : Command}

/-- The sub-ids of a command; an exec command has none. -/
def parts (command : Command) : List String :=
  match command.body with
  | .exec _ => []
  | .composite body => body.commands

def isComposite (command : Command) : Bool :=
  command.composite?.isSome

theorem parts_of_exec {body : ExecBody} (isExec : command.body = .exec body) :
    command.parts = [] := by
  rw [parts, isExec]

/-- The parts of a composite command are told by its sub-ids, in their order. -/
theorem parts_of_composite {body : CompositeBody} (isBody : command.body = .composite body) :
    command.parts = body.commands := by
  rw [parts, isBody]

theorem isComposite_of_exec {body : ExecBody} (isExec : command.body = .exec body) :
    command.isComposite = false := by
  rw [isComposite, composite?, isExec]
  rfl

theorem isComposite_of_composite {body : CompositeBody} (isBody : command.body = .composite body) :
    command.isComposite = true := by
  rw [isComposite, composite?, isBody]
  rfl

end Command

namespace Devfile

variable {devfile : Devfile} {start : Command}

/-- The commands on the way from `start` to the one that stands first in the list. All of them but
that one are composite commands. -/
inductive Trail (devfile : Devfile) (start : Command) : List Command → Prop
  | start : Trail devfile start [start]
  | step {command part : Command} {earlier : List Command} {subId : String} :
      Trail devfile start (command :: earlier) → subId ∈ command.parts →
      devfile.Names subId part →
      Trail devfile start (part :: command :: earlier)

/-- What holds at the start, and goes over from each command to its parts, holds at every command
that a trail comes to. -/
theorem Trail.forwards {holds : List String → Command → Prop}
    (onwards : ∀ path command, holds path command → ∀ subId ∈ command.parts,
      ∃ part, devfile.Names subId part ∧ holds (command.key :: path) part)
    (atStart : holds [] start) {command : Command} {earlier : List Command}
    (trail : devfile.Trail start (command :: earlier)) :
    holds (earlier.map Command.key) command := by
  generalize isAll : command :: earlier = all at trail
  induction trail generalizing command earlier with
  | start =>
    cases isAll
    exact atStart
  | step trail isPart names ih =>
    cases isAll
    obtain ⟨part, isNamed, holdsPart⟩ := onwards _ _ (ih rfl) _ isPart
    cases names.unique isNamed
    exact holdsPart

/-- What holds at a command if it holds at all that a trail can come to next holds at every command
that a trail comes to, provided that no trail enters a composite command of a name that it has
entered before. -/
theorem Trail.backwards {motive : Command → List Command → Prop}
    (fresh : ∀ command earlier, devfile.Trail start (command :: earlier) →
      command.isComposite = true → command.key ∉ earlier.map Command.key)
    (back : ∀ command earlier, devfile.Trail start (command :: earlier) →
      (∀ part, devfile.Trail start (part :: command :: earlier) →
        motive part (command :: earlier)) → motive command earlier)
    {command : Command} {earlier : List Command}
    (trail : devfile.Trail start (command :: earlier)) : motive command earlier := by
  generalize bound : devfile.unvisited ((command :: earlier).map Command.key) = size
  induction size using Nat.strongRecOn generalizing command earlier with
  | ind size ih =>
    refine back command earlier trail fun part longer => ?_
    cases isBody : part.body with
    | exec body =>
      -- An exec command is the end of the trail.
      refine back part _ longer fun next further => ?_
      cases further with
      | step _ isPart _ =>
        rw [Command.parts_of_exec isBody] at isPart
        cases isPart
    | composite body =>
      -- Entering a composite command leaves fewer to enter.
      have isFresh := fresh _ _ longer (Command.isComposite_of_composite isBody)
      refine ih _ ?_ longer rfl
      rw [← bound]
      cases longer with
      | step _ _ names => exact unvisited_cons_lt (List.mem_map_of_mem names.mem) isFresh

/-- A walk examines each command in view of the keys on the way to it and then walks to what its
sub-ids refer to. It ends well exactly if every command that a trail comes to is fine and every
sub-id refers to a command. -/
theorem walk_iff {holds fine : List String → Command → Prop}
    (walk : ∀ path command, holds path command ↔ fine path command ∧
      ∀ subId ∈ command.parts, ∃ part, devfile.Names subId part ∧ holds (command.key :: path) part)
    (fresh : (∀ command earlier, devfile.Trail start (command :: earlier) →
        fine (earlier.map Command.key) command) →
      ∀ command earlier, devfile.Trail start (command :: earlier) → command.isComposite = true →
        command.key ∉ earlier.map Command.key) :
    holds [] start ↔ ∀ command earlier, devfile.Trail start (command :: earlier) →
      fine (earlier.map Command.key) command ∧
        ∀ subId ∈ command.parts, ∃ part, devfile.Names subId part := by
  constructor
  · intro holdsStart command earlier trail
    have holdsHere : holds (earlier.map Command.key) command :=
      trail.forwards (fun path command holds => ((walk path command).mp holds).2) holdsStart
    obtain ⟨isFine, parts⟩ := (walk _ _).mp holdsHere
    refine ⟨isFine, fun subId isPart => ?_⟩
    obtain ⟨part, names, -⟩ := parts subId isPart
    exact ⟨part, names⟩
  · intro all
    have isFresh := fresh fun command earlier trail => (all command earlier trail).1
    refine Trail.backwards (motive := fun command earlier =>
      holds (earlier.map Command.key) command) isFresh ?_ .start
    intro command earlier trail holdsParts
    obtain ⟨isFine, known⟩ := all command earlier trail
    refine (walk _ _).mpr ⟨isFine, fun subId isPart => ?_⟩
    obtain ⟨part, names⟩ := known subId isPart
    exact ⟨part, names, holdsParts part (.step trail isPart names)⟩

end Devfile

end DevfilePush
