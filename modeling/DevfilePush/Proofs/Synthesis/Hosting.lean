import DevfilePush.Proofs.Synthesis.Supervisor

/-!
What the supervisor adds to containers, and what it leaves alone.

Hosting a program makes the supervisor the container's own program, and appends the supervisor's
volume and the program's variables where they are missing; the rest of the container stays
(`Extends`). It is the first container of the command's name that hosts it, and the other containers
are not touched (`HostsAt`). A container that has all that a program asks for (`Ready`) is not
changed by hosting it, and stays ready when it comes to host another program. So a second round
changes nothing, whether the run and debug commands share a container or not. On the containers
of the devfile itself there is one for each command, and only the commands can be at fault.
-/

namespace DevfilePush

open Checked (Yields)
open Kubernetes (Container)

namespace Supervisor

/-- The names of the variables that the supervisor reads. -/
def varNames : List String :=
  [Program.run.commandVar, Program.run.workingDirVar, Program.debug.commandVar,
    Program.debug.workingDirVar, debugPortVar]

namespace Program

variable {program : Program} {port : Int} {body : ExecBody} {container : Container}

/-- The group that the program's command comes from. -/
def group : Program → GroupKind
  | run => .run
  | debug => .debug

/-- What hosting the program does to a container. -/
def host (port : Int) : Program → ExecBody → Container → Container
  | run => fun body container => container.hosting .run body
  | debug => hostDebug port

/-- The variables that tell the supervisor about the program. -/
def vars (port : Int) (program : Program) (body : ExecBody) : List (String × String) :=
  let workingDir := (body.workingDir.filter (· ≠ "")).toList
  let debugPort := if program = debug then [(debugPortVar, toString port)] else []
  (program.commandVar, body.lineWithEnv) ::
    (workingDir.map fun dir => (program.workingDirVar, dir)) ++ debugPort

theorem name_mem_of_mem_vars {var : String × String} (mem : var ∈ program.vars port body) :
    var.1 ∈ varNames := by
  simp only [vars, List.cons_append, List.mem_cons, List.mem_append, List.mem_map] at mem
  rcases mem with rfl | ⟨dir, -, rfl⟩ | mem
  · cases program <;> simp [varNames]
  · cases program <;> simp [varNames]
  · split at mem
    · cases List.mem_singleton.mp mem
      simp [varNames]
    · cases mem

end Program

end Supervisor

namespace Kubernetes.Container

variable {container before after first second third : Container}
  {vars others : List (String × String)}

/-! ### Equipping a container -/

/-- The container with the supervisor as its program and with those of the variables that it
lacks. -/
def equipped (container : Container) (vars : List (String × String)) : Container :=
  vars.foldl (fun container var => container.addEnvIfAbsent var.1 var.2) container.wrapped

theorem equipped_append :
    container.equipped (vars ++ others) =
      others.foldl (fun container var => container.addEnvIfAbsent var.1 var.2)
        (container.equipped vars) :=
  List.foldl_append

/-- What hosting adds for either program: its command, and its working directory unless this is
empty. -/
theorem hosting_eq_equipped {program : Supervisor.Program} {body : ExecBody} :
    container.hosting program body = container.equipped ((program.commandVar, body.lineWithEnv) ::
      (body.workingDir.filter (· ≠ "")).toList.map fun dir => (program.workingDirVar, dir)) := by
  unfold hosting equipped
  cases body.workingDir with
  | none => rfl
  | some dir =>
    by_cases isEmpty : dir = ""
    · simp [isEmpty, Option.filter]
    · simp [isEmpty, Option.filter]

theorem addEnvIfAbsent_program (name value : String) :
    (container.addEnvIfAbsent name value).command = container.command ∧
      (container.addEnvIfAbsent name value).args = container.args := by
  unfold addEnvIfAbsent
  split <;> exact ⟨rfl, rfl⟩

/-! ### What is added -/

/-- The container apart from its program, its variables and its mounts. -/
def bare (container : Container) : Container :=
  { container with command := none, args := none, env := none, volumeMounts := none }

/-- Variables of the supervisor follow those there were, each at most once and only if there was
none of its name. -/
def Gains (before after : List EnvVar) : Prop :=
  ∃ added, after = before ++ added ∧ (added.map (·.name)).Nodup ∧
    ∀ var ∈ added, var.name ∈ Supervisor.varNames ∧ var.name ∉ before.map (·.name)

theorem Gains.refl (vars : List EnvVar) : Gains vars vars :=
  ⟨[], by simp⟩

/-- What has been added counts as there when more is added. -/
theorem Gains.trans {before between after : List EnvVar} (one : Gains before between)
    (two : Gains between after) : Gains before after := by
  obtain ⟨added, rfl, distinct, absent⟩ := one
  obtain ⟨more, rfl, distinctMore, absentMore⟩ := two
  simp only [List.map_append, List.mem_append, not_or] at absentMore
  refine ⟨added ++ more, List.append_assoc .., ?_, fun var mem => ?_⟩
  · rw [List.map_append, List.nodup_append]
    refine ⟨distinct, distinctMore, ?_⟩
    rintro name isAdded _ isMore rfl
    obtain ⟨var, mem, rfl⟩ := List.mem_map.mp isMore
    exact (absentMore var mem).2.2 isAdded
  · rcases List.mem_append.mp mem with mem | mem
    · exact absent var mem
    · exact ⟨(absentMore var mem).1, (absentMore var mem).2.1⟩

/-- `after` is `before`, perhaps with the supervisor as its program and with what the supervisor
needs. -/
structure Extends (before after : Container) : Prop where
  /-- Name, image, ports and resources are the same. -/
  bare : after.bare = before.bare
  /-- The program is the same, or the supervisor. -/
  program : (after.command = before.command ∧ after.args = before.args) ∨
    (after.command = some [Supervisor.binary] ∧ after.args = some ["-c", Supervisor.configFile])
  env : Gains before.envVars after.envVars
  /-- The supervisor's volume follows the other mounts, if it was not mounted. -/
  mounts : after.mounts = before.mounts ∨
    (before.hasMount Supervisor.volumeName = false ∧ after.isWrapped = true ∧
      after.mounts = before.mounts ++ [⟨Supervisor.volumeName, Supervisor.mountPath⟩])

theorem Extends.refl (container : Container) : container.Extends container where
  bare := rfl
  program := .inl ⟨rfl, rfl⟩
  env := .refl _
  mounts := .inl rfl

theorem Extends.name (extends_ : before.Extends after) : after.name = before.name := by
  change after.bare.name = before.bare.name
  rw [extends_.bare]

theorem Extends.ports (extends_ : before.Extends after) : after.ports = before.ports := by
  change after.bare.ports = before.bare.ports
  rw [extends_.bare]

/-- Once the supervisor is the program it stays so. -/
theorem Extends.isWrapped (extends_ : before.Extends after) (isWrapped : before.isWrapped = true) :
    after.isWrapped = true := by
  rcases extends_.program with ⟨same, -⟩ | ⟨isSupervisor, -⟩
  · rwa [Container.isWrapped, same]
  · simp [Container.isWrapped, isSupervisor]

theorem Extends.trans (one : first.Extends second) (two : second.Extends third) :
    first.Extends third where
  bare := two.bare.trans one.bare
  program := by
    rcases two.program with ⟨command, args⟩ | isSupervisor
    · rw [command, args]
      exact one.program
    · exact .inr isSupervisor
  env := one.env.trans two.env
  mounts := by
    rcases one.mounts with same | ⟨absent, isWrapped, isAdded⟩
    · rcases two.mounts with same' | ⟨absent', isWrapped, isAdded⟩
      · exact .inl (same'.trans same)
      · refine .inr ⟨?_, isWrapped, by rw [isAdded, same]⟩
        rwa [hasMount, ← same]
    · rcases two.mounts with same' | ⟨absent', -, -⟩
      · exact .inr ⟨absent, two.isWrapped isWrapped, same'.trans isAdded⟩
      · -- The volume is mounted by now.
        rw [hasMount, isAdded] at absent'
        simp at absent'

theorem extends_addEnvIfAbsent {name value : String} (known : name ∈ Supervisor.varNames) :
    container.Extends (container.addEnvIfAbsent name value) := by
  unfold addEnvIfAbsent
  split
  · exact .refl container
  · rename_i absent
    have isNew : name ∉ container.envVars.map (·.name) := mt hasEnv_eq_true_iff.mpr absent
    refine ⟨rfl, .inl ⟨rfl, rfl⟩, ⟨[⟨name, some value⟩], rfl, by simp, fun var mem => ?_⟩, .inl rfl⟩
    cases List.mem_singleton.mp mem
    exact ⟨known, isNew⟩

theorem extends_wrapped : container.Extends container.wrapped := by
  have isWrapped := @wrapped_isWrapped container
  unfold wrapped at isWrapped ⊢
  dsimp only at isWrapped ⊢
  split
  · exact ⟨rfl, .inr ⟨rfl, rfl⟩, .refl _, .inl rfl⟩
  · rename_i absent
    rw [if_neg absent] at isWrapped
    exact ⟨rfl, .inr ⟨rfl, rfl⟩, .refl _, .inr ⟨Bool.eq_false_iff.mpr absent, isWrapped, rfl⟩⟩

/-- Equipping a container with variables that the supervisor reads extends it. -/
theorem extends_equipped (known : ∀ var ∈ vars, var.1 ∈ Supervisor.varNames) :
    container.Extends (container.equipped vars) :=
  List.foldlRecOn vars _ extends_wrapped fun _ before var mem =>
    before.trans (extends_addEnvIfAbsent (known var mem))

/-! ### When there is nothing to add -/

/-- The container has the supervisor and all of the variables. -/
structure Ready (container : Container) (vars : List (String × String)) : Prop where
  command : container.command = some [Supervisor.binary]
  args : container.args = some ["-c", Supervisor.configFile]
  mount : container.hasMount Supervisor.volumeName = true
  vars : ∀ var ∈ vars, container.hasEnv var.1 = true

theorem hasEnv_addEnvIfAbsent {name value sought : String}
    (has : container.hasEnv sought = true ∨ sought = name) :
    (container.addEnvIfAbsent name value).hasEnv sought = true := by
  unfold Container.addEnvIfAbsent
  split
  · rename_i present
    exact has.elim id fun same => same ▸ present
  · rw [hasEnv_eq_true_iff] at has ⊢
    change sought ∈ (container.envVars ++ [_]).map _
    rw [List.map_append, List.mem_append]
    exact has.imp_right fun same => List.mem_singleton.mpr same

/-- A container that is ready stays so with a further variable, and is ready for that one too. -/
theorem Ready.addEnvIfAbsent (ready : container.Ready vars) (var : String × String) :
    (container.addEnvIfAbsent var.1 var.2).Ready (vars ++ [var]) where
  command := (addEnvIfAbsent_program ..).1.trans ready.command
  args := (addEnvIfAbsent_program ..).2.trans ready.args
  mount := by
    rw [hasMount, addEnvIfAbsent_mounts]
    exact ready.mount
  vars other mem := by
    refine hasEnv_addEnvIfAbsent ?_
    rcases List.mem_append.mp mem with mem | mem
    · exact .inl (ready.vars other mem)
    · exact .inr (congrArg Prod.fst (List.mem_singleton.mp mem))

/-- So it is when the variables are added one after another. -/
theorem Ready.foldl (ready : container.Ready vars) :
    (others.foldl (fun container var => container.addEnvIfAbsent var.1 var.2) container).Ready
      (vars ++ others) := by
  induction others generalizing container vars with
  | nil => rwa [List.append_nil]
  | cons var rest ih =>
    rw [List.append_cons]
    exact ih (ready.addEnvIfAbsent var)

/-- A container that has the supervisor is not wrapped once more. -/
theorem wrapped_eq_self (ready : container.Ready vars) : container.wrapped = container := by
  have same : { container with
      command := some [Supervisor.binary]
      args := some ["-c", Supervisor.configFile] } = container := by
    rw [← ready.command, ← ready.args]
  unfold wrapped
  dsimp only
  rw [same, if_pos ready.mount]

/-- Equipping a container that is ready does nothing. -/
theorem Ready.equipped_eq_self (ready : container.Ready vars) :
    container.equipped vars = container := by
  refine List.foldlRecOn (motive := fun changed => changed = container) vars _
    (wrapped_eq_self ready) ?_
  rintro _ rfl var mem
  exact if_pos (ready.vars var mem)

theorem ready_wrapped : container.wrapped.Ready [] := by
  unfold wrapped
  dsimp only
  split
  · rename_i mounted
    exact ⟨rfl, rfl, mounted, by simp⟩
  · exact ⟨rfl, rfl, by simp [hasMount], by simp⟩

/-- A container that has been equipped is ready. -/
theorem ready_equipped : (container.equipped vars).Ready vars :=
  ready_wrapped.foldl

/-- A container that is ready stays so when it is equipped with other variables. -/
theorem Ready.equipped (ready : container.Ready vars) : (container.equipped others).Ready vars := by
  have all : (container.equipped others).Ready (vars ++ others) := by
    rw [Container.equipped, wrapped_eq_self ready]
    exact ready.foldl
  exact ⟨all.command, all.args, all.mount, fun var mem => all.vars var (List.mem_append_left _ mem)⟩

end Kubernetes.Container

namespace Supervisor.Program

variable (program : Program) (port : Int) {body : ExecBody} {container : Container}

/-- Hosting a program is equipping the container with the program's variables. -/
theorem host_eq_equipped :
    program.host port body container = container.equipped (program.vars port body) := by
  rw [vars, Container.equipped_append, ← Container.hosting_eq_equipped]
  cases program <;> rfl

theorem extends_host : container.Extends (program.host port body container) :=
  host_eq_equipped program port ▸ Container.extends_equipped fun _ => name_mem_of_mem_vars

theorem ready_host : (program.host port body container).Ready (program.vars port body) :=
  host_eq_equipped program port ▸ Container.ready_equipped

/-- Hosting one program does not undo what another one needs. -/
theorem ready_host_of_ready {vars : List (String × String)} (ready : container.Ready vars) :
    (program.host port body container).Ready vars :=
  host_eq_equipped program port ▸ ready.equipped

/-- Hosting a program for the second time does nothing. -/
theorem host_eq_self (ready : container.Ready (program.vars port body)) :
    program.host port body container = container :=
  (host_eq_equipped program port).trans ready.equipped_eq_self

end Supervisor.Program

/-! ### The containers of the commands -/

namespace Supervisor

variable {containers changed : List Container} {command : Command}
  {prepares : ExecBody → Container → Container}

/-- Only the first container that is called what the command asks for is prepared. -/
theorem getElem?_prepare {index : Nat}
    (elsewhere : ∀ body, command.body = .exec body →
      (containerNames containers).idxOf? body.component ≠ some index)
    (done : prepare containers command prepares = .ok changed) :
    changed[index]? = containers[index]? := by
  cases isBody : command.body with
  | composite body =>
    rw [prepare, isBody] at done
    cases done
    rfl
  | exec body =>
    have modified := modifyNamed?_of_prepare isBody done
    rw [modifyNamed?_eq] at modified
    obtain ⟨found, isFound, rfl⟩ := Option.map_eq_some_iff.mp modified
    have ne : found ≠ index := fun same => elsewhere body isBody (same ▸ isFound)
    rw [List.getElem?_modify]
    simp [ne]

/-- Where the container of the command is not changed, no container is. -/
theorem prepare_eq_self
    (fixed : ∀ body, command.body = .exec body →
      FirstNamed containers body.component fun container => prepares body container = container) :
    prepare containers command prepares = .ok containers := by
  unfold prepare
  cases isBody : command.body with
  | composite body => rfl
  | exec body =>
    dsimp only
    rw [modifyNamed?_eq_self (fixed body isBody)]

end Supervisor

variable {devfile : Devfile} {overrides : CommandOverrides} {port : Int}
  {containers changed : List Container}

/-- The command of a program, if there is one. -/
def Devfile.programCommand (devfile : Devfile) (overrides : CommandOverrides)
    (program : Supervisor.Program) : Except CommandError (Option Command) :=
  devfile.findCommand program.group (overrides.get? program.group)

/-- The container at `index` is the first one that is called what the command of a program asks
for. -/
def Devfile.HostsAt (devfile : Devfile) (overrides : CommandOverrides)
    (containers : List Container) (index : Nat) : Prop :=
  ∃ (program : Supervisor.Program) (command : Command) (body : ExecBody),
    devfile.programCommand overrides program = .ok (some command) ∧ command.body = .exec body ∧
      (containerNames containers).idxOf? body.component = some index

/-- Without a run command nothing is hosted. -/
theorem wrapContainers_eq_self_of_none (isNone : devfile.findCommand .run overrides.run = .ok none)
    (done : devfile.wrapContainers overrides port containers = .ok changed) :
    changed = containers := by
  obtain ⟨run, isRun, done⟩ := Checked.bind_eq_ok_iff.mp done
  cases isNone.symm.trans (Checked.mapError_eq_ok_iff.mp isRun)
  obtain ⟨debug, -, done⟩ := Checked.bind_eq_ok_iff.mp done
  exact (Checked.pure_eq_ok_iff.mp done).symm

theorem exists_run_of_wrapContainers
    (done : devfile.wrapContainers overrides port containers = .ok changed) :
    ∃ run, devfile.findCommand .run overrides.run = .ok run := by
  obtain ⟨run, isRun, -⟩ := Checked.bind_eq_ok_iff.mp done
  exact ⟨run, Checked.mapError_eq_ok_iff.mp isRun⟩

/-- Containers that host neither program are not touched. -/
theorem getElem?_wrapContainers {index : Nat}
    (elsewhere : ¬ devfile.HostsAt overrides containers index)
    (done : devfile.wrapContainers overrides port containers = .ok changed) :
    changed[index]? = containers[index]? := by
  obtain ⟨run, isRun⟩ := exists_run_of_wrapContainers done
  cases run with
  | none => rw [wrapContainers_eq_self_of_none isRun done]
  | some run =>
    obtain ⟨debug, hosting, isDebug, prepared, others⟩ :=
      exists_prepared_of_wrapContainers isRun done
    have hosted : hosting[index]? = containers[index]? :=
      Supervisor.getElem?_prepare
        (fun body isExec found => elsewhere ⟨.run, run, body, isRun, isExec, found⟩) prepared
    cases debug with
    | none => rw [others, hosted]
    | some debug =>
      have same := Supervisor.containerNames_prepare (by simp) prepared
      refine (Supervisor.getElem?_prepare (fun body isExec found => ?_) others).trans hosted
      exact elsewhere ⟨.debug, debug, body, isDebug, isExec, same ▸ found⟩

/-- The containers of the commands are ready for them afterwards, the run command's even if the
debug command came to the same container. -/
theorem ready_of_wrapContainers {run command : Command}
    (isRun : devfile.findCommand .run overrides.run = .ok (some run))
    (done : devfile.wrapContainers overrides port containers = .ok changed)
    {program : Supervisor.Program} {body : ExecBody}
    (found : devfile.programCommand overrides program = .ok (some command))
    (isExec : command.body = .exec body) :
    FirstNamed changed body.component fun container =>
      container.Ready (program.vars port body) := by
  cases program with
  | run =>
    cases isRun.symm.trans found
    exact firstNamed_run_of_wrapContainers isRun done isExec
      (fun _ => Supervisor.Program.ready_host .run port)
      fun _ _ => Supervisor.Program.ready_host_of_ready .debug port
  | debug =>
    exact firstNamed_debug_of_wrapContainers isRun done found isExec
      fun _ => Supervisor.Program.ready_host .debug port

/-- The containers are the same as before, one for one, but for what the supervisor needs. -/
theorem extends_of_wrapContainers
    (done : devfile.wrapContainers overrides port containers = .ok changed) :
    List.Forall₂ Container.Extends containers changed :=
  forall₂_wrapContainers .refl (fun _ _ _ => .trans)
    (fun _ _ => Supervisor.Program.extends_host .run port)
    (fun _ _ => Supervisor.Program.extends_host .debug port) done

/-- A container that is ready for all of its programs is left as it is. -/
theorem wrapContainers_idempotent
    (done : devfile.wrapContainers overrides port containers = .ok changed) :
    devfile.wrapContainers overrides port changed = .ok changed := by
  obtain ⟨run, isRun⟩ := exists_run_of_wrapContainers done
  cases run with
  | none =>
    obtain rfl := wrapContainers_eq_self_of_none isRun done
    exact done
  | some run =>
    have fixed : ∀ (program : Supervisor.Program) (command : Command),
        devfile.programCommand overrides program = .ok (some command) →
          Supervisor.prepare changed command (program.host port) = .ok changed := by
      refine fun program command found => Supervisor.prepare_eq_self fun body isExec => ?_
      obtain ⟨container, isFirst, ready⟩ := ready_of_wrapContainers isRun done found isExec
      exact ⟨container, isFirst, Supervisor.Program.host_eq_self program port ready⟩
    obtain ⟨debug, hosting, isDebug, -⟩ := exists_prepared_of_wrapContainers isRun done
    have runs : Supervisor.prepare changed run
        (fun body container => container.hosting .run body) = .ok changed := fixed .run run isRun
    unfold Devfile.wrapContainers
    rw [isRun, isDebug]
    refine Checked.bind_eq_ok_iff.mpr ⟨some run, rfl, Checked.bind_eq_ok_iff.mpr ⟨debug, rfl, ?_⟩⟩
    refine Checked.bind_eq_ok_iff.mpr ⟨changed, Checked.mapError_eq_ok_iff.mpr runs, ?_⟩
    cases debug with
    | none => rfl
    | some debug => exact Checked.mapError_eq_ok_iff.mpr (fixed .debug debug isDebug)

/-- Where there is a container for each container component, there is one for each command that
is found. -/
theorem exists_prepare_of_findCommand
    (names : containerNames containers = devfile.containers.map (·.1)) {kind : GroupKind}
    {override : Option String} {command : Command}
    (found : devfile.findCommand kind override = .ok (some command))
    (prepares : ExecBody → Container → Container) :
    ∃ changed, Supervisor.prepare containers command prepares = .ok changed :=
  Supervisor.exists_prepare fun _ isExec => names ▸
    component_mem_of_validateCommand (Devfile.serves_of_findCommand found).valid isExec

/-- So only finding the commands can fail. -/
theorem wrapContainers_yields (overrides : CommandOverrides) (port : Int)
    (names : containerNames containers = devfile.containers.map (·.1)) :
    Yields (devfile.wrapContainers overrides port containers)
      (fun _ => ∀ program, ∃ found, devfile.programCommand overrides program = .ok found)
      fun failure => ∃ program cause,
        devfile.programCommand overrides program = .error cause ∧ failure = .command cause := by
  have finding : ∀ program, Yields
      ((devfile.programCommand overrides program).mapError Failure.command) (fun _ => True)
      fun failure => ∃ program cause,
        devfile.programCommand overrides program = .error cause ∧ failure = .command cause :=
    fun program => (Checked.yields_of (fun _ _ => trivial)
      fun cause failed => ⟨program, cause, failed, rfl⟩).mapError
  refine (finding .run).bind fun run isRun _ => (finding .debug).bind fun debug isDebug _ => ?_
  rw [Checked.mapError_eq_ok_iff] at isRun isDebug
  have found : ∀ program, ∃ found, devfile.programCommand overrides program = .ok found
    | .run => ⟨run, isRun⟩
    | .debug => ⟨debug, isDebug⟩
  cases run with
  | none => exact found
  | some run =>
    obtain ⟨hosting, isHosting⟩ := exists_prepare_of_findCommand names isRun
      fun body container => container.hosting .run body
    change Yields ((Supervisor.prepare containers run _).mapError _ >>= _) _ _
    rw [isHosting]
    cases debug with
    | none => exact found
    | some debug =>
      have same := Supervisor.containerNames_prepare (by simp) isHosting
      obtain ⟨changed, isChanged⟩ := exists_prepare_of_findCommand (same.trans names) isDebug
        (Supervisor.hostDebug port)
      change Yields ((Supervisor.prepare hosting debug (Supervisor.hostDebug port)).mapError _) _ _
      rw [isChanged]
      exact found

/-- What becomes of containers when the programs of a devfile are hosted. -/
structure Devfile.Hosted (devfile : Devfile) (overrides : CommandOverrides) (port : Int)
    (containers changed : List Container) : Prop where
  /-- There are the same containers in the same order, but for what the supervisor needs. -/
  each : List.Forall₂ Container.Extends containers changed
  /-- A container that is not the one of a command is untouched. -/
  elsewhere : ∀ index, ¬ devfile.HostsAt overrides containers index →
    changed[index]? = containers[index]?
  /-- With a run command, the container of each command has all that its program asks for. -/
  ready : ∀ run, devfile.findCommand .run overrides.run = .ok (some run) →
    ∀ (program : Supervisor.Program) (command : Command) (body : ExecBody),
      devfile.programCommand overrides program = .ok (some command) → command.body = .exec body →
      FirstNamed changed body.component fun container => container.Ready (program.vars port body)
  /-- Without a run command all of them are untouched. -/
  idle : devfile.findCommand .run overrides.run = .ok none → changed = containers
  /-- Nothing is left to do for a second round. -/
  settled : devfile.wrapContainers overrides port changed = .ok changed

/-- Hosting the programs adds to the containers of the commands what these lack, and no more. On
the containers of the devfile itself it fails only if one of the commands cannot be found. -/
theorem wrapContainers_spec (devfile : Devfile) (overrides : CommandOverrides) (port : Int) :
    (∀ containers changed, devfile.wrapContainers overrides port containers = .ok changed →
      devfile.Hosted overrides port containers changed) ∧
    ∀ containers failure, devfile.synthesizeContainers = .ok containers →
      devfile.wrapContainers overrides port containers = .error failure →
      ∃ program cause, devfile.programCommand overrides program = .error cause ∧
        failure = .command cause := by
  refine ⟨fun containers changed done => ?_, fun containers failure made failed => ?_⟩
  · exact
      { each := extends_of_wrapContainers done
        elsewhere := fun _ notHosting => getElem?_wrapContainers notHosting done
        ready := fun _ isRun _ _ _ found isExec => ready_of_wrapContainers isRun done found isExec
        idle := fun isNone => wrapContainers_eq_self_of_none isNone done
        settled := wrapContainers_idempotent done }
  · exact (wrapContainers_yields _ _ (containerNames_of_synthesizeContainers made)).error failed

/-- The sample component with a debug command that runs in the container of the run command. -/
def Devfile.inspected : Devfile :=
  { Devfile.sample [] with
    commands := (Devfile.sample []).commands ++ [⟨"inspect", .exec
      { component := "main", commandLine := "make inspect", workingDir := some "/src",
        group := some ⟨.debug, true⟩ }⟩] }

/-- Two containers called the same, the first with a debug command of its own, after another. -/
def namesakes : List Container :=
  [{ name := "tools" },
    { name := "main", env := some [⟨"ODO_COMMAND_DEBUG", some "make probe"⟩] },
    { name := "main" }]

theorem wrapContainers_namesakes :
    (∃ changed, Devfile.inspected.wrapContainers {} 5858 namesakes = .ok changed ∧
      changed[0]? = namesakes[0]? ∧ changed[2]? = namesakes[2]? ∧
      FirstNamed changed "main" (fun container => container.hasEnv "ODO_DEBUG_PORT" = true) ∧
      Devfile.inspected.wrapContainers {} 5858 changed = .ok changed) ∧
    ∃ containers failure, Devfile.inspected.synthesizeContainers = .ok containers ∧
      Devfile.inspected.wrapContainers { run := some "start" } 5858 containers = .error failure ∧
      ∃ cause, failure = .command cause := by
  have runs : Devfile.inspected.findCommand .run none = .ok (some ⟨"serve", .exec
      { component := "main", commandLine := "make serve", group := some ⟨.run, true⟩ }⟩) := by
    rfl
  have debugs : Devfile.inspected.findCommand .debug none = .ok (some ⟨"inspect", .exec
      { component := "main", commandLine := "make inspect", workingDir := some "/src",
        group := some ⟨.debug, true⟩ }⟩) := by
    rfl
  have wraps : (Devfile.inspected.wrapContainers {} 5858 namesakes).toOption.any
      (fun _ => true) = true := by decide +kernel
  obtain ⟨changed, done, -⟩ := Checked.exists_of_any_toOption wraps
  have hosted := (wrapContainers_spec .inspected {} 5858).1 namesakes changed done
  have only : ∀ index, Devfile.inspected.HostsAt {} namesakes index → index = 1 := by
    rintro index ⟨_ | _, command, body, found, isExec, isFirst⟩
    · cases runs.symm.trans found
      cases isExec
      exact Option.some.inj (isFirst.symm.trans (by decide))
    · cases debugs.symm.trans found
      cases isExec
      exact Option.some.inj (isFirst.symm.trans (by decide))
  have debugged := hosted.ready _ runs .debug _ _ debugs rfl
  have made : Devfile.inspected.synthesizeContainers.toOption.any (fun _ => true) = true := by
    decide +kernel
  obtain ⟨containers, isMade, -⟩ := Checked.exists_of_any_toOption made
  have failed : Devfile.inspected.wrapContainers { run := some "start" } 5858 containers =
      .error (.command (.notFound "start")) := rfl
  obtain ⟨-, cause, -, isCause⟩ :=
    (wrapContainers_spec .inspected { run := some "start" } 5858).2 containers _ isMade failed
  refine ⟨⟨changed, done, ?_, ?_, ?_, hosted.settled⟩, containers, _, isMade, failed, cause, isCause⟩
  · exact hosted.elsewhere 0 fun hosts => absurd (only 0 hosts) (by decide)
  · exact hosted.elsewhere 2 fun hosts => absurd (only 2 hosts) (by decide)
  · obtain ⟨container, isFirst, ready⟩ := debugged
    exact ⟨container, isFirst, ready.vars ("ODO_DEBUG_PORT", "5858") (by decide)⟩

end DevfilePush
