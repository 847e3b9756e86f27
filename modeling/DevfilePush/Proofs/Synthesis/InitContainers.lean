import DevfilePush.Proofs.Synthesis.PreStart

/-!
What runs before the start.

There is one init container for each command that the event before the start stands for, in the
same order. It is a copy of the container that the command belongs to, with a shell as its program
that is told to run the command (`Runs`), without ports, and under a name that nothing else in the
pod has (`preStartContainers_spec`).
-/

namespace DevfilePush

open Kubernetes (Container)

namespace PreStart

variable {containers built : List Container} {base : Container} {name shell : String}
  {names : Naming.Allocator} {commands : List Command} {body : ExecBody}

/-- What a shell is told to run a command: its line, from its directory if it names one. -/
structure IsShellLine (body : ExecBody) (line : String) : Prop where
  placed : ∀ dir, body.workingDir = some dir → dir ≠ "" →
    line = "cd " ++ dir ++ " && " ++ body.commandLine
  plain : (∀ dir, body.workingDir = some dir → dir = "") → line = body.commandLine

theorem isShellLine_shellLine (body : ExecBody) :
    IsShellLine body (shellLine body.commandLine body.workingDir) := by
  unfold shellLine
  constructor
  case placed =>
    intro dir isDir given
    rw [isDir]
    exact if_neg given
  case plain =>
    intro none
    cases isDir : body.workingDir with
    | none => rfl
    | some dir => exact if_pos (none dir isDir)

/-- `init` is a copy of `base` that runs an exec command. -/
structure Runs (init base : Container) (shell : String) (body : ExecBody) : Prop where
  /-- It differs in nothing but its name, program, ports and variables, and has no ports. -/
  copies : init = { base with
    name := init.name
    command := init.command
    args := some []
    ports := none
    env := init.env }
  /-- Its program is a shell that is told to run the command. -/
  program : ∃ line, IsShellLine body line ∧ init.command = some [shell, "-c", line]
  /-- The variables of the container are followed by those of the command. -/
  vars : init.envVars = base.envVars ++ body.env.map EnvVar.toKubernetes
  kept : body.env = [] → init.env = base.env

theorem runs_initContainer : Runs (initContainer base name shell body) base shell body := by
  constructor
  case copies => rfl
  case program => exact ⟨_, isShellLine_shellLine body, rfl⟩
  case vars =>
    rw [initContainer, Container.envVars]
    cases body.env with
    | nil => exact (List.append_nil _).symm
    | cons => rfl
  case kept =>
    intro none
    rw [initContainer, none]
    rfl

/-- One init container for each command, made from the first container of its component's name. -/
theorem forall₂_of_build (done : build containers shell names commands = .ok built) :
    List.Forall₂ (fun command init => ∃ body base, command.body = .exec body ∧
      (containers.find? fun container => container.name = body.component) = some base ∧
      Runs init base shell body) commands built := by
  induction commands generalizing names built with
  | nil =>
    cases done
    exact .nil
  | cons command rest ih =>
    obtain ⟨body, base, others, isExec, found, isRest, rfl⟩ := build_cons_eq_ok done
    exact .cons ⟨body, base, isExec, found, runs_initContainer⟩ (ih isRest)

theorem length_reserved (containers : List Container) :
    (reserved containers).used.length = containers.length + 1 := by
  rw [used_reserved, List.length_append, List.length_reverse, containerNames, List.length_map]
  rfl

end PreStart

/-- A command that runs twice before the start, with a directory and a variable of its own. -/
def Devfile.preparing : Devfile :=
  { commands :=
      [⟨"Fetch", .exec
          { component := "main"
            commandLine := "make fetch"
            workingDir := some "/src"
            env := [⟨"DEPTH", "1"⟩] }⟩]
    events := { preStart := ["fetch", "FETCH"] } }

/-- Two containers of one name, and one that has the name of an init container. -/
def preparingContainers : List Container :=
  [{ name := "main", env := some [⟨"STAGE", some "dev"⟩], ports := some [{ containerPort := 80 }] },
    { name := "main" }, { name := "main-fetch" }]

end DevfilePush
