import DevfilePush.Proofs.Synthesis.Containers

/-!
Which containers the supervisor runs.

A container that is prepared for a program gets the supervisor as its own program, and
nothing that is added to it later takes that back. Containers are looked up by name, so what
counts is the first container of a name: it runs the supervisor (`Hosts`) once the run or
debug command of that name has been prepared (`hosts_of_wrapContainers`), and preparing the
other command leaves that alone. Preparing fails only for want of a container.
-/

namespace DevfilePush

open Kubernetes (Container)

/-! ### The supervisor as a program -/

namespace Kubernetes.Container

variable {container : Container}

@[simp] theorem addMount_isWrapped {volume path : String} :
    (container.addMount volume path).isWrapped = container.isWrapped := rfl

@[simp] theorem addEnvIfAbsent_isWrapped {var value : String} :
    (container.addEnvIfAbsent var value).isWrapped = container.isWrapped := by
  unfold addEnvIfAbsent
  split <;> rfl

@[simp] theorem wrapped_isWrapped : container.wrapped.isWrapped = true := by
  unfold wrapped
  dsimp only
  split <;> simp [isWrapped, addMount]

@[simp] theorem hosting_isWrapped {program : Supervisor.Program} {body : ExecBody} :
    (container.hosting program body).isWrapped = true := by
  unfold hosting
  dsimp only
  split
  · split <;> simp
  · simp

@[simp] theorem hostDebug_isWrapped {port : Int} {body : ExecBody} :
    (Supervisor.hostDebug port body container).isWrapped = true := by
  simp [Supervisor.hostDebug]

end Kubernetes.Container

/-- The first container of that name runs the supervisor. -/
def Hosts (containers : List Container) (name : String) : Prop :=
  ∃ container, (containers.find? fun container => container.name = name) = some container ∧
    container.isWrapped = true

/-- The first container of that name is as said. -/
def FirstNamed (containers : List Container) (name : String) (holds : Container → Prop) : Prop :=
  ∃ container, (containers.find? fun container => container.name = name) = some container ∧
    holds container

variable {devfile : Devfile} {overrides : CommandOverrides} {port : Int}
  {containers changed : List Container}

theorem Hosts.any_isWrapped {name : String} (hosts : Hosts containers name) :
    containers.any Container.isWrapped = true := by
  obtain ⟨container, found, isWrapped⟩ := hosts
  exact List.any_eq_true.mpr ⟨container, List.mem_of_find?_eq_some found, isWrapped⟩

theorem Hosts.any_named {name : String} (hosts : Hosts containers name) :
    (containers.any fun container => container.name = name && container.isWrapped) = true := by
  obtain ⟨container, found, isWrapped⟩ := hosts
  have isNamed : container.name = name := by simpa using List.find?_some found
  exact List.any_eq_true.mpr
    ⟨container, List.mem_of_find?_eq_some found, by simp [isNamed, isWrapped]⟩

namespace Supervisor

variable {name : String} {change : Container → Container}

/-! ### Changing the first container of a name -/

/-- It is the first container of the name that is changed. -/
theorem modifyNamed?_eq :
    modifyNamed? name change containers =
      ((containerNames containers).idxOf? name).map fun index => containers.modify index change := by
  induction containers with
  | nil => rfl
  | cons first rest ih =>
    rw [modifyNamed?, containerNames, List.map_cons, List.idxOf?_cons, ← containerNames, ih]
    by_cases isNamed : first.name = name
    · simp [isNamed]
    · simp [isNamed, Function.comp_def]

/-- Changing a container changes what is found under its name, and nothing else. -/
theorem find?_modifyNamed? (keeps : ∀ container, (change container).name = container.name)
    (done : modifyNamed? name change containers = some changed) (sought : String) :
    (changed.find? fun container => container.name = sought) =
      (containers.find? fun container => container.name = sought).map fun container =>
        if sought = name then change container else container := by
  induction containers generalizing changed with
  | nil => cases done
  | cons first rest ih =>
    rw [modifyNamed?] at done
    split at done
    · rename_i isNamed
      cases done
      by_cases same : sought = name
      · simp [keeps, isNamed, same]
      · have ne : ¬ first.name = sought := fun isSought => same (isSought ▸ isNamed)
        simp [keeps, ne, same]
    · rename_i notNamed
      obtain ⟨others, found, rfl⟩ := Option.map_eq_some_iff.mp done
      by_cases isSought : first.name = sought
      · have ne : ¬ sought = name := fun same => notNamed (isSought.trans same)
        simp [isSought, ne]
      · simp [isSought, ih found]

/-- There is something to change exactly when a container has the name. -/
theorem isSome_modifyNamed?_iff :
    (modifyNamed? name change containers).isSome = true ↔ name ∈ containerNames containers := by
  rw [modifyNamed?_eq, Option.isSome_map, List.isSome_idxOf?]

/-- A change that leaves the container as it is leaves all of them as they are. -/
theorem modifyNamed?_eq_self
    (fixed : FirstNamed containers name fun container => change container = container) :
    modifyNamed? name change containers = some containers := by
  obtain ⟨container, found, same⟩ := fixed
  induction containers with
  | nil => cases found
  | cons first rest ih =>
    rw [modifyNamed?]
    rw [List.find?_cons] at found
    split
    · rename_i isNamed
      simp only [isNamed, decide_true, Option.some.injEq] at found
      rw [found, same]
    · rename_i notNamed
      simp only [notNamed, decide_false] at found
      rw [ih found]
      rfl

/-! ### Preparing a container -/

variable {command : Command} {body : ExecBody} {prepares : ExecBody → Container → Container}

/-- The container of an exec command can be prepared when there is one; a composite command
needs none. -/
theorem exists_prepare
    (hasContainer : ∀ body, command.body = .exec body →
      body.component ∈ containerNames containers) :
    ∃ changed, prepare containers command prepares = .ok changed := by
  unfold prepare
  cases isBody : command.body with
  | composite body => exact ⟨containers, rfl⟩
  | exec body =>
    obtain ⟨changed, found⟩ :
        ∃ changed, modifyNamed? body.component (prepares body) containers = some changed :=
      Option.isSome_iff_exists.mp (isSome_modifyNamed?_iff.mpr (hasContainer body isBody))
    exact ⟨changed, by dsimp only; rw [found]⟩

theorem modifyNamed?_of_prepare (isExec : command.body = .exec body)
    (done : prepare containers command prepares = .ok changed) :
    modifyNamed? body.component (prepares body) containers = some changed := by
  rw [prepare, isExec] at done
  dsimp only at done
  split at done
  · cases done
    assumption
  · cases done

section

variable {holds : Container → Prop}
  (keeps : ∀ body container, (prepares body container).name = container.name)
  (done : prepare containers command prepares = .ok changed)

include keeps done

/-- The container of the command is what preparing makes of it. -/
theorem firstNamed_of_prepare (isExec : command.body = .exec body)
    (makes : ∀ container, holds (prepares body container)) :
    FirstNamed changed body.component holds := by
  have modified := modifyNamed?_of_prepare isExec done
  obtain ⟨container, mem, isNamed⟩ :=
    List.mem_map.mp (isSome_modifyNamed?_iff.mp (Option.isSome_of_eq_some modified))
  obtain ⟨first, found⟩ : ∃ first,
      (containers.find? fun container => container.name = body.component) = some first :=
    Option.isSome_iff_exists.mp (List.find?_isSome.mpr ⟨container, mem, decide_eq_true isNamed⟩)
  refine ⟨prepares body first, ?_, makes first⟩
  rw [find?_modifyNamed? (keeps body) modified, found, Option.map_some, if_pos rfl]

/-- What preparing a container does not undo goes on to hold, whichever container is prepared. -/
theorem FirstNamed.prepare {name : String} (first : FirstNamed containers name holds)
    (stays : ∀ body container, holds container → holds (prepares body container)) :
    FirstNamed changed name holds := by
  cases isBody : command.body with
  | composite body =>
    rw [Supervisor.prepare, isBody] at done
    cases done
    exact first
  | exec body =>
    obtain ⟨container, found, isSo⟩ := first
    have modified := modifyNamed?_of_prepare isBody done
    refine ⟨if name = body.component then prepares body container else container, ?_, ?_⟩
    · rw [find?_modifyNamed? (keeps body) modified, found, Option.map_some]
    · split
      · exact stays body container isSo
      · exact isSo

end

end Supervisor

/-! ### The containers of the run and debug commands -/

section

variable {run : Command} {body : ExecBody}
  (isRun : devfile.findCommand .run overrides.run = .ok (some run))
  (done : devfile.wrapContainers overrides port containers = .ok changed)

include isRun done

/-- The container of the run command is prepared first, and then that of the debug command. -/
theorem exists_prepared_of_wrapContainers :
    ∃ debug hosting, devfile.findCommand .debug overrides.debug = .ok debug ∧
      Supervisor.prepare containers run (fun body container => container.hosting .run body) =
        .ok hosting ∧
      match debug with
      | none => changed = hosting
      | some debug =>
        Supervisor.prepare hosting debug (Supervisor.hostDebug port) = .ok changed := by
  obtain ⟨foundRun, isFoundRun, done⟩ := Checked.bind_eq_ok_iff.mp done
  cases isRun.symm.trans (Checked.mapError_eq_ok_iff.mp isFoundRun)
  obtain ⟨debug, isDebug, done⟩ := Checked.bind_eq_ok_iff.mp done
  obtain ⟨hosting, isHosting, done⟩ := Checked.bind_eq_ok_iff.mp done
  refine ⟨debug, hosting, Checked.mapError_eq_ok_iff.mp isDebug,
    Checked.mapError_eq_ok_iff.mp isHosting, ?_⟩
  cases debug with
  | none => exact (Checked.pure_eq_ok_iff.mp done).symm
  | some debug => exact Checked.mapError_eq_ok_iff.mp done

/-- The container of the run command is what hosting that makes of it, as far as hosting the
debug command does not undo it. -/
theorem firstNamed_run_of_wrapContainers {holds : Container → Prop}
    (isExec : run.body = .exec body)
    (makes : ∀ container : Container, holds (container.hosting .run body))
    (stays : ∀ body container, holds container → holds (Supervisor.hostDebug port body container)) :
    FirstNamed changed body.component holds := by
  obtain ⟨debug, hosting, -, prepared, others⟩ := exists_prepared_of_wrapContainers isRun done
  have first : FirstNamed hosting body.component holds :=
    Supervisor.firstNamed_of_prepare (by simp) prepared isExec makes
  cases debug with
  | none => exact others ▸ first
  | some debug => exact Supervisor.FirstNamed.prepare (by simp) others first stays

theorem firstNamed_debug_of_wrapContainers {holds : Container → Prop} {debug : Command}
    (isDebug : devfile.findCommand .debug overrides.debug = .ok (some debug))
    (isExec : debug.body = .exec body)
    (makes : ∀ container, holds (Supervisor.hostDebug port body container)) :
    FirstNamed changed body.component holds := by
  obtain ⟨found, hosting, isFound, -, prepared⟩ := exists_prepared_of_wrapContainers isRun done
  cases isDebug.symm.trans isFound
  exact Supervisor.firstNamed_of_prepare (by simp) prepared isExec makes

theorem hosts_run_of_wrapContainers (isExec : run.body = .exec body) :
    Hosts changed body.component :=
  firstNamed_run_of_wrapContainers isRun done isExec (by simp) (by simp)

theorem hosts_debug_of_wrapContainers {debug : Command}
    (isDebug : devfile.findCommand .debug overrides.debug = .ok (some debug))
    (isExec : debug.body = .exec body) : Hosts changed body.component :=
  firstNamed_debug_of_wrapContainers isRun done isDebug isExec (by simp)

end

/-- A component that is rendered has a run command and so a container with the supervisor. -/
theorem Stages.any_isWrapped {params : PushParameters} {desired : DesiredComponent}
    {synthesized containers preStart : List Container}
    (stages : Stages devfile params desired synthesized containers preStart) :
    containers.any Container.isWrapped = true := by
  obtain ⟨run, -, foundRun⟩ := Devfile.exists_run_of_resolvePushSet stages.commands
  obtain ⟨body, isExec⟩ := (Devfile.serves_of_findCommand foundRun).exists_exec
  exact (hosts_run_of_wrapContainers foundRun stages.isWrapped isExec).any_isWrapped

end DevfilePush
