import DevfilePush.Proofs.Command.Expansion
import DevfilePush.Proofs.Command.Validity

/-!
What a command stands for.

A command can be unfolded if every trail from it finds what its sub-ids refer to and never enters
two composite commands of one name. It then stands for the exec commands at the ends of its trails,
from left to right, each as often as trails end there (`Unfolds`). Neither the group of a composite
command nor its wish to run in parallel has anything to do with that (`flatten_spec`).
-/

namespace DevfilePush

namespace Devfile

variable {devfile : Devfile} {start command : Command} {path parts : List String} {owner : String}
  {leaves : List Command}

/-- Every trail from `start` ends at exec commands. -/
structure Unfoldable (devfile : Devfile) (start : Command) : Prop where
  /-- Every sub-id refers to a command. -/
  known : ∀ command earlier, devfile.Trail start (command :: earlier) →
    ∀ subId ∈ command.parts, ∃ part, devfile.Names subId part
  /-- No composite command has the name of one that the trail is inside of. -/
  apart : ∀ command earlier, devfile.Trail start (command :: earlier) →
    command.isComposite = true → ∀ other ∈ earlier, other.key ≠ command.key

/-- The exec commands that the commands with the given ids stand for, from left to right. -/
inductive UnfoldsAll (devfile : Devfile) : List String → List Command → Prop
  | nil : UnfoldsAll devfile [] []
  | exec {subId : String} {rest : List String} {part : Command} {body : ExecBody}
      {leaves : List Command} :
      devfile.Names subId part → part.body = .exec body →
      UnfoldsAll devfile rest leaves → UnfoldsAll devfile (subId :: rest) (part :: leaves)
  | composite {subId : String} {rest : List String} {part : Command} {body : CompositeBody}
      {inner leaves : List Command} :
      devfile.Names subId part → part.body = .composite body →
      UnfoldsAll devfile body.commands inner → UnfoldsAll devfile rest leaves →
      UnfoldsAll devfile (subId :: rest) (inner ++ leaves)

/-- The exec commands that a command stands for. -/
def Unfolds (devfile : Devfile) (command : Command) (leaves : List Command) : Prop :=
  match command.body with
  | .exec _ => leaves = [command]
  | .composite body => devfile.UnfoldsAll body.commands leaves

/-- Ids stand for one list of commands at most, as each of them names one command at most. -/
theorem UnfoldsAll.unique {ids : List String} {other : List Command}
    (unfolds : devfile.UnfoldsAll ids leaves) (unfoldsOther : devfile.UnfoldsAll ids other) :
    leaves = other := by
  induction unfolds generalizing other with
  | nil =>
    cases unfoldsOther
    rfl
  | exec found isExec _ ih =>
    cases unfoldsOther with
    | exec foundOther _ unfoldsRest =>
      cases found.unique foundOther
      rw [ih unfoldsRest]
    | composite foundOther isComposite _ _ =>
      cases found.unique foundOther
      cases isExec.symm.trans isComposite
  | composite found isComposite _ _ ihInner ih =>
    cases unfoldsOther with
    | exec foundOther isExec _ =>
      cases found.unique foundOther
      cases isComposite.symm.trans isExec
    | composite foundOther isCompositeOther unfoldsInner unfoldsRest =>
      cases found.unique foundOther
      cases isComposite.symm.trans isCompositeOther
      rw [ihInner unfoldsInner, ih unfoldsRest]

/-! ### One command -/

/-- Parts can be expanded if each of them can. -/
theorem exists_leavesOfParts_iff (owner : String) :
    (∃ leaves, devfile.leavesOfParts path owner parts = .ok leaves) ↔
      ∀ subId ∈ parts, ∃ part, devfile.Names subId part ∧
        ∃ leaves, devfile.expand path part = .ok leaves := by
  induction parts with
  | nil => simp [leavesOfParts]
  | cons subId rest ih =>
    rw [List.forall_mem_cons, ← ih]
    constructor
    · rintro ⟨leaves, expanded⟩
      obtain ⟨part, found, first, isFirst, others, isOthers, -⟩ :=
        leavesOfParts_cons_eq_ok_iff.mp expanded
      exact ⟨⟨part, found, first, isFirst⟩, others, isOthers⟩
    · rintro ⟨⟨part, found, first, isFirst⟩, others, isOthers⟩
      exact ⟨_, leavesOfParts_cons_eq_ok_iff.mpr
        ⟨part, found, first, isFirst, others, isOthers, rfl⟩⟩

/-- What an expansion needs at one command, and what is left to its parts. -/
theorem exists_expand_iff :
    (∃ leaves, devfile.expand path command = .ok leaves) ↔
      (command.isComposite = true → command.key ∉ path) ∧
        ∀ subId ∈ command.parts, ∃ part, devfile.Names subId part ∧
          ∃ leaves, devfile.expand (command.key :: path) part = .ok leaves := by
  cases isBody : command.body with
  | exec body =>
    rw [expand_of_exec isBody, Command.parts_of_exec isBody, Command.isComposite_of_exec isBody]
    simp
  | composite body =>
    rw [expand_of_composite isBody, Command.parts_of_composite isBody,
      Command.isComposite_of_composite isBody, ← exists_leavesOfParts_iff command.id]
    by_cases circular : command.key ∈ path <;> simp [circular]

/-! ### Whole commands -/

/-- A command can be expanded exactly if it can be unfolded: the walk that expansion takes is the
one that `walk_iff` speaks of. -/
theorem exists_flatten_iff :
    (∃ leaves, devfile.flatten start = .ok leaves) ↔ devfile.Unfoldable start := by
  have walk := @walk_iff devfile start
    (fun path command => ∃ leaves, devfile.expand path command = .ok leaves)
    (fun path command => command.isComposite = true → command.key ∉ path)
    (fun _ _ => exists_expand_iff) fun fresh => fresh
  rw [flatten_eq_expand, walk]
  constructor
  · intro all
    refine ⟨fun command earlier trail => (all command earlier trail).2, ?_⟩
    intro command earlier trail isComposite other mem same
    have fresh := (all command earlier trail).1 isComposite
    rw [← same] at fresh
    exact fresh (List.mem_map_of_mem mem)
  · intro unfoldable command earlier trail
    refine ⟨fun isComposite mem => ?_, unfoldable.known command earlier trail⟩
    obtain ⟨other, isOther, same⟩ := List.mem_map.mp mem
    exact unfoldable.apart command earlier trail isComposite other isOther same

/-- The parts of a composite command are expanded to what they stand for. -/
theorem unfoldsAll_of_leavesOfParts
    (expanded : devfile.leavesOfParts path owner parts = .ok leaves) :
    devfile.UnfoldsAll parts leaves := by
  fun_induction leavesOfParts devfile path owner parts generalizing leaves with
  | case1 path owner =>
    cases expanded
    exact .nil
  | case2 path owner subId rest missing => cases expanded
  | case3 path owner subId rest part found body isExec ih =>
    obtain ⟨others, isOthers, same⟩ := Checked.bind_eq_ok_iff.mp expanded
    cases same
    exact .exec (commandByKey?_eq_some_iff.mp found) isExec (ih isOthers)
  | case4 path owner subId rest part found body isComposite circular => cases expanded
  | case5 path owner subId rest part found body isComposite fresh ihInner ih =>
    obtain ⟨inner, isInner, expanded⟩ := Checked.bind_eq_ok_iff.mp expanded
    obtain ⟨others, isOthers, same⟩ := Checked.bind_eq_ok_iff.mp expanded
    cases same
    exact .composite (commandByKey?_eq_some_iff.mp found) isComposite (ihInner isInner)
      (ih isOthers)

/-- What a command is expanded to is what it stands for. -/
theorem unfolds_of_flatten (flattened : devfile.flatten command = .ok leaves) :
    devfile.Unfolds command leaves := by
  unfold flatten at flattened
  unfold Unfolds
  cases isBody : command.body with
  | exec body =>
    rw [isBody] at flattened
    cases flattened
    rfl
  | composite body =>
    rw [isBody] at flattened
    exact unfoldsAll_of_leavesOfParts flattened

/-- A command stands for one list of commands at most. -/
theorem Unfolds.unique {other : List Command} (unfolds : devfile.Unfolds command leaves)
    (unfoldsOther : devfile.Unfolds command other) : leaves = other := by
  unfold Unfolds at unfolds unfoldsOther
  split at unfolds
  · rename_i body isBody
    rw [isBody] at unfoldsOther
    rw [unfolds, unfoldsOther]
  · rename_i body isBody
    rw [isBody] at unfoldsOther
    exact unfolds.unique unfoldsOther

/-- The expansion of a command is the one unfolding that it has, if it can be unfolded at all. -/
theorem flatten_eq_ok_iff :
    devfile.flatten command = .ok leaves ↔
      devfile.Unfoldable command ∧ devfile.Unfolds command leaves := by
  constructor
  · intro flattened
    exact ⟨exists_flatten_iff.mp ⟨leaves, flattened⟩, unfolds_of_flatten flattened⟩
  · rintro ⟨unfoldable, unfolds⟩
    obtain ⟨found, flattened⟩ := exists_flatten_iff.mpr unfoldable
    rw [flattened, (unfolds_of_flatten flattened).unique unfolds]

end Devfile

/-! ### What makes no difference -/

/-- The command without what a composite command says besides its parts. -/
def Command.outline (command : Command) : Command :=
  match command.body with
  | .exec _ => command
  | .composite body => ⟨command.id, .composite { commands := body.commands }⟩

namespace Command

variable {command twin : Command}

theorem outline_of_exec {body : ExecBody} (isBody : command.body = .exec body) :
    command.outline = command := by
  rw [outline, isBody]

theorem outline_of_composite {body : CompositeBody} (isBody : command.body = .composite body) :
    command.outline = ⟨command.id, .composite { commands := body.commands }⟩ := by
  rw [outline, isBody]

@[simp] theorem outline_id (command : Command) : command.outline.id = command.id := by
  unfold outline
  split <;> rfl

/-- An outline is referred to like the command. -/
@[simp] theorem outline_key (command : Command) : command.outline.key = command.key := by
  rw [key, outline_id, key]

theorem key_eq_of_outline_eq (same : twin.outline = command.outline) : twin.key = command.key := by
  rw [← outline_key twin, same, outline_key]

/-- Exec commands say nothing that makes no difference. -/
theorem eq_of_outline_eq {body : ExecBody} (isBody : command.body = .exec body)
    (same : twin.outline = command.outline) : twin = command := by
  rw [outline_of_exec isBody] at same
  cases isTwin : twin.body with
  | exec body => rwa [outline_of_exec isTwin] at same
  | composite body =>
    rw [outline_of_composite isTwin] at same
    rw [← same] at isBody
    cases isBody

/-- A command with the outline of a composite command is a composite command with the same id and
parts. -/
theorem composite_of_outline_eq {body : CompositeBody} (isBody : command.body = .composite body)
    (same : twin.outline = command.outline) :
    twin.id = command.id ∧ ∃ other, twin.body = .composite other ∧
      other.commands = body.commands := by
  rw [outline_of_composite isBody] at same
  cases isTwin : twin.body with
  | exec other =>
    rw [outline_of_exec isTwin] at same
    rw [same] at isTwin
    cases isTwin
  | composite other =>
    rw [outline_of_composite isTwin] at same
    obtain ⟨sameId, sameBody⟩ := Command.mk.inj same
    have sameCommands := (CompositeBody.mk.inj (CommandBody.composite.inj sameBody)).1
    exact ⟨sameId, other, rfl, sameCommands⟩

end Command

namespace Devfile

variable {devfile other : Devfile} {command twin : Command} {path parts : List String}
  {owner : String}

/-- What stands under a key is, in outline, what stands under it among the outlines. -/
theorem map_outline_commandByKey? (devfile : Devfile) (key : String) :
    (devfile.commandByKey? key).map Command.outline =
      (devfile.commands.map Command.outline).reverse.find? fun command => command.key = key := by
  rw [commandByKey?, ← List.map_reverse, List.find?_map]
  congr 2
  funext command
  simp

/-- Commands with one outline are expanded alike, if the parts are. -/
theorem expand_congr (same : twin.outline = command.outline)
    (sameParts : ∀ body, command.body = .composite body → command.key ∉ path →
      other.leavesOfParts (command.key :: path) command.id body.commands =
        devfile.leavesOfParts (command.key :: path) command.id body.commands) :
    other.expand path twin = devfile.expand path command := by
  cases isBody : command.body with
  | exec body =>
    obtain rfl := Command.eq_of_outline_eq isBody same
    rw [expand_of_exec isBody, expand_of_exec isBody]
  | composite body =>
    obtain ⟨sameId, otherBody, isTwin, sameCommands⟩ :=
      Command.composite_of_outline_eq isBody same
    rw [expand_of_composite isBody, expand_of_composite isTwin, Command.key_eq_of_outline_eq same,
      sameId, sameCommands]
    split
    · rfl
    · rename_i fresh
      exact sameParts body isBody fresh

/-- What one devfile finds the other one finds in outline. -/
def SameOutlines (other devfile : Devfile) : Prop :=
  ∀ key, (other.commandByKey? key).map Command.outline =
    (devfile.commandByKey? key).map Command.outline

/-- Looking commands up does not tell devfiles apart whose commands agree in outline. -/
theorem sameOutlines_of_map_eq
    (same : other.commands.map Command.outline = devfile.commands.map Command.outline) :
    other.SameOutlines devfile := by
  intro key
  rw [map_outline_commandByKey?, same, ← map_outline_commandByKey?]

/-- What one devfile finds under a key has a twin in the other one. -/
theorem SameOutlines.exists_twin (same : other.SameOutlines devfile) {key : String}
    (found : devfile.commandByKey? key = some command) :
    ∃ twin, other.commandByKey? key = some twin ∧ twin.outline = command.outline := by
  apply Option.map_eq_some_iff.mp
  rw [same, found, Option.map_some]

/-- So parts are expanded alike, whichever of the two devfiles they are looked up in. -/
theorem SameOutlines.leavesOfParts_eq (same : other.SameOutlines devfile) :
    other.leavesOfParts path owner parts = devfile.leavesOfParts path owner parts := by
  induction path, owner, parts using leavesOfParts.induct devfile with
  | case1 path owner => rw [leavesOfParts, leavesOfParts]
  | case2 path owner subId rest missing =>
    have isMissing : other.commandByKey? (Text.lowercase subId) = none := by
      rw [← Option.map_eq_none_iff (f := Command.outline), same, missing, Option.map_none]
    rw [leavesOfParts_cons, leavesOfParts_cons, missing, isMissing]
  | case3 path owner subId rest part found body isExec ih =>
    obtain ⟨twin, foundTwin, sameTwin⟩ := same.exists_twin found
    obtain rfl := Command.eq_of_outline_eq isExec sameTwin
    rw [leavesOfParts_cons, leavesOfParts_cons, found, foundTwin]
    dsimp only
    rw [expand_of_exec isExec, expand_of_exec isExec, ih]
  | case4 path owner subId rest part found body isComposite circular =>
    obtain ⟨twin, foundTwin, sameTwin⟩ := same.exists_twin found
    rw [← key_of_commandByKey? found] at circular
    have sameExpand : other.expand path twin = devfile.expand path part :=
      expand_congr sameTwin fun _ _ fresh => absurd circular fresh
    rw [leavesOfParts_cons, leavesOfParts_cons, found, foundTwin]
    dsimp only
    rw [sameExpand, expand_of_composite isComposite, if_pos circular]
    rfl
  | case5 path owner subId rest part found body isComposite fresh ihInner ih =>
    obtain ⟨twin, foundTwin, sameTwin⟩ := same.exists_twin found
    rw [← key_of_commandByKey? found] at ihInner
    have sameExpand : other.expand path twin = devfile.expand path part := by
      refine expand_congr sameTwin fun otherBody isBody _ => ?_
      cases isComposite.symm.trans isBody
      exact ihInner
    rw [leavesOfParts_cons, leavesOfParts_cons, found, foundTwin]
    dsimp only
    rw [sameExpand, ih]

theorem SameOutlines.flatten_eq (same : other.SameOutlines devfile)
    (sameCommand : twin.outline = command.outline) :
    other.flatten twin = devfile.flatten command := by
  rw [flatten_eq_expand, flatten_eq_expand]
  exact expand_congr sameCommand fun _ _ _ => same.leavesOfParts_eq

/-- The expansion of a command depends on the outlines of the commands alone. -/
theorem flatten_congr
    (same : other.commands.map Command.outline = devfile.commands.map Command.outline)
    (sameCommand : twin.outline = command.outline) :
    other.flatten twin = devfile.flatten command :=
  (sameOutlines_of_map_eq same).flatten_eq sameCommand

/-- Which commands can be expanded, and into what. -/
theorem flatten_spec (devfile : Devfile) (command : Command) :
    ((∃ leaves, devfile.flatten command = .ok leaves) ↔ devfile.Unfoldable command) ∧
      (∀ leaves, devfile.flatten command = .ok leaves ↔
        devfile.Unfoldable command ∧ devfile.Unfolds command leaves) ∧
      (∀ (other : Devfile) (twin : Command),
        other.commands.map Command.outline = devfile.commands.map Command.outline →
        twin.outline = command.outline → other.flatten twin = devfile.flatten command) ∧
      (devfile.validateCommand command = .ok () →
        ∃ leaves, devfile.flatten command = .ok leaves ∧ ∀ leaf ∈ leaves, devfile.IsLeaf leaf) :=
  ⟨exists_flatten_iff, fun _ => flatten_eq_ok_iff, fun _ _ => flatten_congr,
    flatten_of_validateCommand⟩

/-- Two composite commands with a part in common, and one that runs both. -/
def branching (group : Option CommandGroup) (parallel : Bool) : Devfile :=
  { components := [⟨"main", .container { image := "alpine" }⟩]
    commands :=
      [.ofLine "compile" "main" "make", ⟨"Left", .composite { commands := ["COMPILE"], parallel }⟩,
        ⟨"Right", .composite { commands := ["compile", "Compile"], group }⟩,
        ⟨"all", .composite { commands := ["left", "right"], group, parallel }⟩] }

/-- Whether it is grouped or runs in parallel or not, the command stands for the part in common
three times. -/
theorem flatten_branching :
    ∃ leaves, leaves = List.replicate 3 (.ofLine "compile" "main" "make") ∧
      (branching none false).flatten (.ofCommands "all" ["left", "right"]) = .ok leaves ∧
      (∀ leaf ∈ leaves, (branching none false).IsLeaf leaf) ∧
      (branching (some ⟨.build, true⟩) true).flatten (.ofCommands "all" ["left", "right"]) =
        .ok leaves := by
  have compiles : ∀ subId, Text.lowercase subId = "compile" →
      (branching none false).Names subId (.ofLine "compile" "main" "make") := by
    intro subId isId
    exact commandByKey?_eq_some_iff.mp (by rw [isId]; rfl)
  have isLeft : (branching none false).Names "left" (.ofCommands "Left" ["COMPILE"]) :=
    commandByKey?_eq_some_iff.mp (by rfl)
  have isRight : (branching none false).Names "right"
      (.ofCommands "Right" ["compile", "Compile"]) :=
    commandByKey?_eq_some_iff.mp (by rfl)
  have compile : ∀ path, (branching none false).Passes path (.ofLine "compile" "main" "make") :=
    fun path => (passes_exec_iff rfl).mpr rfl
  have left : (branching none false).Passes ["all"] (.ofCommands "Left" ["COMPILE"]) := by
    refine (passes_composite_iff rfl).mpr ⟨rfl, validateParts_eq_ok_iff.mpr ?_⟩
    exact ⟨by decide +kernel, List.forall_mem_singleton.mpr ⟨_, compiles _ (by rfl), compile _⟩⟩
  have right : (branching none false).Passes ["all"]
      (.ofCommands "Right" ["compile", "Compile"]) := by
    refine (passes_composite_iff rfl).mpr ⟨rfl, validateParts_eq_ok_iff.mpr ?_⟩
    refine ⟨by decide +kernel, List.forall_mem_cons.mpr ⟨⟨_, compiles _ (by rfl), compile _⟩, ?_⟩⟩
    exact List.forall_mem_singleton.mpr ⟨_, compiles _ (by rfl), compile _⟩
  have valid : (branching none false).validateCommand (.ofCommands "all" ["left", "right"]) =
      .ok () := by
    rw [validateCommand_eq_ok_iff_passes]
    refine (passes_composite_iff rfl).mpr ⟨rfl, validateParts_eq_ok_iff.mpr ?_⟩
    refine ⟨by decide +kernel, List.forall_mem_cons.mpr ⟨⟨_, isLeft, left⟩, ?_⟩⟩
    exact List.forall_mem_singleton.mpr ⟨_, isRight, right⟩
  -- The part in common is run once for each sub-id that leads to it.
  have inLeft : (branching none false).UnfoldsAll ["COMPILE"] [.ofLine "compile" "main" "make"] :=
    .exec (compiles _ (by rfl)) rfl .nil
  have inRight : (branching none false).UnfoldsAll ["compile", "Compile"]
      [.ofLine "compile" "main" "make", .ofLine "compile" "main" "make"] :=
    .exec (compiles _ (by rfl)) rfl (.exec (compiles _ (by rfl)) rfl .nil)
  have unfolds : (branching none false).UnfoldsAll ["left", "right"] _ :=
    .composite isLeft rfl inLeft (.composite isRight rfl inRight .nil)
  obtain ⟨-, isExpansion, congr, expands⟩ :=
    flatten_spec (branching none false) (.ofCommands "all" ["left", "right"])
  obtain ⟨leaves, flattened, fit⟩ := expands valid
  have isLeaves := ((isExpansion leaves).mp flattened).2.unique unfolds
  refine ⟨leaves, isLeaves, flattened, fit, ?_⟩
  rw [congr (branching (some ⟨.build, true⟩) true) (.ofCommands "all" ["left", "right"]) rfl rfl]
  exact flattened

end Devfile

end DevfilePush
