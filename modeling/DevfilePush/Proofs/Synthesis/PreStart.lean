import DevfilePush.Proofs.Naming.Allocator
import DevfilePush.Proofs.Synthesis.Containers

/-!
The init containers of the event before the start.

Each is a copy of its command's container under a name that is handed out for it, with the names
handed out so far, those of the containers and that of the supervisor's init container in use.
So the copies mount what the containers mount (`exists_base_of_build`), and their names are
different from all of these and from each other (`names_of_build`).
-/

namespace DevfilePush

open Kubernetes (Container)

namespace PreStart

variable {containers built : List Container} {shell : String} {names : Naming.Allocator}
  {commands : List Command}

/-- The name that is handed out for the init container of a command. -/
def handedOut (names : Naming.Allocator) (body : ExecBody) (id : String) : String :=
  names.freshName Naming.shortHash (fullName body.component id)

/-- The first command has the first init container, and its name is in use for the others. -/
theorem build_cons_eq_ok {command : Command}
    (done : build containers shell names (command :: commands) = .ok built) :
    ∃ body base others, command.body = .exec body ∧
      (containers.find? fun container => container.name = body.component) = some base ∧
      build containers shell (names.reserve (handedOut names body command.id)) commands =
        .ok others ∧
      built = initContainer base (handedOut names body command.id) shell body :: others := by
  rw [build] at done
  split at done
  · cases done
  · rename_i body isExec
    split at done
    · cases done
    · rename_i base found
      obtain ⟨others, isOthers, done⟩ := Checked.bind_eq_ok_iff.mp done
      cases done
      exact ⟨body, base, others, isExec, found, isOthers, rfl⟩

/-- An init container mounts what the container mounts that it is a copy of. -/
theorem exists_base_of_build (done : build containers shell names commands = .ok built)
    {init : Container} (mem : init ∈ built) : ∃ base ∈ containers, init.mounts = base.mounts := by
  induction commands generalizing names built with
  | nil =>
    cases done
    cases mem
  | cons command rest ih =>
    obtain ⟨body, base, others, -, found, isRest, rfl⟩ := build_cons_eq_ok done
    rcases List.mem_cons.mp mem with rfl | mem
    · exact ⟨base, List.mem_of_find?_eq_some found, rfl⟩
    · exact ih isRest mem

/-- Names are handed out once, and none of them that was in use. -/
theorem names_of_build (done : build containers shell names commands = .ok built) :
    (containerNames built).Nodup ∧ ∀ name ∈ containerNames built, name ∉ names.used := by
  induction commands generalizing names built with
  | nil =>
    cases done
    exact ⟨List.nodup_nil, nofun⟩
  | cons command rest ih =>
    obtain ⟨body, base, others, -, -, isRest, rfl⟩ := build_cons_eq_ok done
    obtain ⟨distinct, unused⟩ := ih isRest
    have fresh : handedOut names body command.id ∉ names.used :=
      Naming.Allocator.freshName_notMem _ names _
    refine ⟨List.nodup_cons.mpr ⟨fun mem => ?_, distinct⟩, fun name mem => ?_⟩
    · exact unused _ mem List.mem_cons_self
    · rcases List.mem_cons.mp mem with rfl | mem
      · exact fresh
      · exact fun isUsed => unused name mem (List.mem_cons_of_mem _ isUsed)

/-- Each of them fits a label, unless there are too many to number them. -/
theorem length_name_of_build (done : build containers shell names commands = .ok built)
    (few : names.used.length + built.length ≤ 10 ^ 62) {init : Container} (mem : init ∈ built) :
    init.name.length ≤ Naming.maxLength := by
  induction commands generalizing names built with
  | nil =>
    cases done
    cases mem
  | cons command rest ih =>
    obtain ⟨body, base, others, -, -, isRest, rfl⟩ := build_cons_eq_ok done
    rw [List.length_cons] at few
    rcases List.mem_cons.mp mem with rfl | mem
    · exact Naming.Allocator.length_freshName_le
        (fun text => (Naming.length_shortHash text).trans_lt (by decide)) (by omega)
    · refine ih isRest ?_ mem
      rw [Naming.Allocator.reserve, List.length_cons]
      omega

theorem used_foldl_reserve :
    (containers.foldl (fun names container => names.reserve container.name) names).used =
      (containerNames containers).reverse ++ names.used := by
  induction containers generalizing names with
  | nil => rfl
  | cons container rest ih =>
    rw [List.foldl_cons, ih]
    simp [containerNames, Naming.Allocator.reserve]

/-- The supervisor's init container and the containers have their names already. -/
theorem used_reserved (containers : List Container) :
    (reserved containers).used =
      (containerNames containers).reverse ++ [Supervisor.bootstrapName] :=
  used_foldl_reserve

end PreStart

theorem exists_build_of_preStartContainers {devfile : Devfile} {containers built : List Container}
    {shell : String} (done : devfile.preStartContainers containers shell = .ok built) :
    ∃ commands,
      PreStart.build containers shell (PreStart.reserved containers) commands = .ok built := by
  obtain ⟨commands, -, done⟩ := Checked.bind_eq_ok_iff.mp done
  exact ⟨commands, done⟩

end DevfilePush
