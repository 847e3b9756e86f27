import DevfilePush.Proofs.Synthesis.Hosting

/-!
Which devfiles can be rendered.

Rendering goes through many stages that can fail. `Renderable` says what it takes, in terms
of the devfile and the parameters alone, and `RenderFault` what is wrong when it fails: each
failure names a condition that the devfile does not meet. Whatever else a stage looks up has
been made sure of before, so there are no other failures (`render_succeeds_iff`); above all,
the commands that the supervisor is to run have passed their checks and so have containers.
-/

namespace DevfilePush

open Checked (Yields yields_of yields_mapM)
open Kubernetes (Container)

/-! ### Conditions and faults -/

/-- What it takes to render a devfile. -/
structure Renderable (devfile : Devfile) (params : PushParameters) : Prop where
  /-- Every group of a push has its command, or needs none. -/
  resolved : ∀ kind ∈ pushGroups, ∃ found,
    devfile.resolveCommand kind (params.overrides.get? kind) = .ok found
  /-- The debug group is in order, and not empty if its command is to be started. -/
  debug : ∃ found, devfile.findCommand .debug params.overrides.debug = .ok found ∧
    (params.debug = true → ∃ command, found = some command)
  /-- Containers mount volumes that there are. -/
  mounts : ∀ component ∈ devfile.containers, ∀ mount ∈ component.2.volumeMounts,
    ∃ volume ∈ devfile.volumes, volume.1 = mount.name
  /-- The ids of the event before the start name commands. -/
  named : ∀ id ∈ devfile.events.preStart, devfile.NamesCommand id
  /-- The composite commands among them have exec commands as their parts. -/
  parts : ∀ id ∈ devfile.events.preStart, devfile.HasExecParts id
  /-- What they stand for runs in containers that there are. -/
  placed : ∀ id ∈ devfile.events.preStart, ∀ command body, devfile.StandsFor id command →
    command.body = .exec body → body.component ∈ devfile.containers.map (·.1)
  /-- The sizes of volumes are amounts. -/
  sizes : ∀ volume ∈ devfile.volumes, ∀ size, volume.2.size = some size →
    ∃ amount, Quantity.ofText? size = some amount

/-- What is wrong with a devfile that is not rendered. -/
inductive RenderFault (devfile : Devfile) (params : PushParameters) : Failure → Prop where
  /-- Groups of a push have no command to be used; the failure tells of all of them. -/
  | unresolved
      (told : pushGroups.filterMap (devfile.unresolvedMessage? params.overrides) ≠ []) :
      RenderFault devfile params (.command
        (.aggregate (pushGroups.filterMap (devfile.unresolvedMessage? params.overrides))))
  /-- The debug group is not in order, whether or not its command is to be started. -/
  | debugGroup {cause : CommandError}
      (isCause : devfile.findCommand .debug params.overrides.debug = .error cause) :
      RenderFault devfile params (.command cause)
  /-- There is no debug command to be started. -/
  | noDebug (asked : params.debug = true)
      (isNone : devfile.findCommand .debug params.overrides.debug = .ok none) :
      RenderFault devfile params (.command (.groupNotFound .debug))
  /-- A container mounts a volume that there is not. -/
  | mount {component : String × ContainerBody} {mount : VolumeMountRef}
      (mem : component ∈ devfile.containers) (isMount : mount ∈ component.2.volumeMounts)
      (missing : ¬ ∃ volume ∈ devfile.volumes, volume.1 = mount.name) :
      RenderFault devfile params (.synthesis (.unknownVolume component.1 mount.name))
  /-- An id of the event before the start cannot be expanded. -/
  | event {id : String} {cause : SynthesisError} (mem : id ∈ devfile.events.preStart)
      (fault : devfile.EventFault id cause) : RenderFault devfile params (.synthesis cause)
  /-- A command of the event before the start runs in no container. -/
  | misplaced {id : String} {command : Command} {body : ExecBody}
      (mem : id ∈ devfile.events.preStart) (stands : devfile.StandsFor id command)
      (isExec : command.body = .exec body)
      (missing : body.component ∉ devfile.containers.map (·.1)) :
      RenderFault devfile params (.synthesis (.unknownComponent command.id body.component))
  /-- The size of a volume is no amount. -/
  | size {volume : String × VolumeBody} {size : String} (mem : volume ∈ devfile.volumes)
      (declared : volume.2.size = some size) (unread : Quantity.ofText? size = none) :
      RenderFault devfile params
        (.synthesis (.invalidQuantity ("volume " ++ volume.1 ++ " size") size))

variable {devfile : Devfile} {params : PushParameters} {containers : List Container}

/-- Each fault is one that a renderable devfile does not have. -/
theorem RenderFault.not_renderable {failure : Failure}
    (fault : RenderFault devfile params failure) : ¬ Renderable devfile params := by
  intro renderable
  cases fault with
  | unresolved told =>
    refine told (List.filterMap_eq_nil_iff.mpr fun kind mem => ?_)
    exact Devfile.unresolvedMessage?_eq_none_iff.mpr (renderable.resolved kind mem)
  | debugGroup isCause =>
    obtain ⟨found, isFound, -⟩ := renderable.debug
    rw [isCause] at isFound
    cases isFound
  | noDebug asked isNone =>
    obtain ⟨found, isFound, isSome⟩ := renderable.debug
    obtain ⟨command, rfl⟩ := isSome asked
    rw [isNone] at isFound
    cases isFound
  | mount mem isMount missing => exact missing (renderable.mounts _ mem _ isMount)
  | event mem fault => exact fault.unfit ⟨renderable.named _ mem, renderable.parts _ mem⟩
  | misplaced mem stands isExec missing =>
    exact missing (renderable.placed _ mem _ _ stands isExec)
  | size mem declared unread =>
    obtain ⟨amount, isAmount⟩ := renderable.sizes _ mem _ declared
    rw [unread] at isAmount
    cases isAmount

/-! ### Commands -/

/-- The groups are resolved, or the fault lies in one of them. -/
theorem resolvePushSet_yields (devfile : Devfile) (params : PushParameters) :
    Yields (devfile.resolvePushSet params.overrides)
      (fun _ => ∀ kind ∈ pushGroups, ∃ found,
        devfile.resolveCommand kind (params.overrides.get? kind) = .ok found)
      fun cause => RenderFault devfile params (.command cause) := by
  refine yields_of (fun commands done kind mem => ?_) fun cause failed => ?_
  · exact ⟨_, (Devfile.resolvePushSet_spec done).1 kind mem⟩
  · obtain ⟨told, rfl⟩ := Devfile.resolvePushSet_eq_error_iff.mp failed
    exact .unresolved told

/-- A debug command is asked for in debug mode only. -/
theorem requireDebug_yields (devfile : Devfile) (params : PushParameters) :
    Yields (devfile.requireDebug params)
      (fun _ => params.debug = true → ∃ command,
        devfile.findCommand .debug params.overrides.debug = .ok (some command))
      fun cause => RenderFault devfile params (.command cause) := by
  have optional : GroupKind.debug.isMandatory = false := rfl
  rw [Devfile.requireDebug, Devfile.resolveCommand_eq_findCommand optional]
  cases asked : params.debug with
  | false =>
    intro impossible
    cases impossible
  | true =>
    cases isFound : devfile.findCommand .debug params.overrides.debug with
    | error cause => exact .debugGroup isFound
    | ok found =>
      cases found with
      | none => exact .noDebug asked isFound
      | some command => exact fun _ => ⟨command, rfl⟩

/-! ### Containers and claims -/

theorem hasVolume_eq_true_iff {name : String} :
    devfile.hasVolume name = true ↔ ∃ volume ∈ devfile.volumes, volume.1 = name := by
  simp [Devfile.hasVolume, List.any_eq_true]

/-- A container is refused for the first of its mounts that has no volume. -/
theorem withVolumes_yields {mounts : List VolumeMountRef} {container : Container} :
    Yields (devfile.withVolumes container mounts)
      (fun _ => ∀ mount ∈ mounts, ∃ volume ∈ devfile.volumes, volume.1 = mount.name)
      fun cause => ∃ mount ∈ mounts, (¬ ∃ volume ∈ devfile.volumes, volume.1 = mount.name) ∧
        cause = .unknownVolume container.name mount.name := by
  induction mounts generalizing container with
  | nil => exact fun mount mem => absurd mem List.not_mem_nil
  | cons first rest ih =>
    rw [Devfile.withVolumes]
    split
    · rename_i known
      refine (ih.imp_fail ?_).imp_post fun result fit mount mem => ?_
      · rintro cause ⟨mount, mem, missing, same⟩
        rw [Container.addMount_name] at same
        exact ⟨mount, List.mem_cons_of_mem _ mem, missing, same⟩
      · rcases List.mem_cons.mp mem with rfl | mem
        · exact hasVolume_eq_true_iff.mp known
        · exact fit mount mem
    · rename_i unknown
      exact ⟨first, List.mem_cons_self, fun known => unknown (hasVolume_eq_true_iff.mpr known), rfl⟩

/-- Containers are made one by one, and nothing but their mounts can fail them. -/
theorem synthesizeContainers_yields (devfile : Devfile) (params : PushParameters) :
    Yields devfile.synthesizeContainers
      (fun _ => ∀ component ∈ devfile.containers, ∀ mount ∈ component.2.volumeMounts,
        ∃ volume ∈ devfile.volumes, volume.1 = mount.name)
      fun cause => RenderFault devfile params (.synthesis cause) := by
  have each : Yields devfile.synthesizeContainers _
      fun cause => RenderFault devfile params (.synthesis cause) :=
    yields_mapM fun component mem => withVolumes_yields.imp_fail ?_
  · refine each.imp_post fun results fit component mem => ?_
    obtain ⟨-, -, mounts⟩ := fit.1 component mem
    exact mounts
  · rintro cause ⟨mount, isMount, missing, rfl⟩
    rw [withSources_name]
    exact .mount mem isMount missing

/-- A claim is made unless its size is given and is no quantity: the size that it has otherwise is
one. -/
theorem claim_yields {body : VolumeBody} {component volume : String} {labels : Labels} :
    Yields (body.claim component labels volume)
      (fun _ => ∀ size, body.size = some size → ∃ amount, Quantity.ofText? size = some amount)
      fun cause => ∃ size, body.size = some size ∧ Quantity.ofText? size = none ∧
        cause = .invalidQuantity ("volume " ++ volume ++ " size") size := by
  have readable : Quantity.ofText? defaultVolumeSize = some defaultVolumeSize := by decide
  unfold VolumeBody.claim
  cases declared : body.size with
  | none =>
    dsimp only [Option.getD_none]
    rw [readable]
    intro size impossible
    cases impossible
  | some size =>
    dsimp only [Option.getD_some]
    cases isAmount : Quantity.ofText? size with
    | none => exact ⟨size, rfl, isAmount, rfl⟩
    | some amount =>
      rintro _ ⟨⟩
      exact ⟨amount, isAmount⟩

theorem synthesizeClaims_yields (devfile : Devfile) (params : PushParameters)
    (component : String) (labels : Labels) :
    Yields (devfile.synthesizeClaims component labels)
      (fun _ => ∀ volume ∈ devfile.volumes, ∀ size, volume.2.size = some size →
        ∃ amount, Quantity.ofText? size = some amount)
      fun cause => RenderFault devfile params (.synthesis cause) := by
  have each : Yields (devfile.synthesizeClaims component labels) _
      fun cause => RenderFault devfile params (.synthesis cause) :=
    yields_mapM fun volume mem => claim_yields.imp_fail ?_
  · refine each.imp_post fun results fit volume mem => ?_
    obtain ⟨-, -, sizes⟩ := fit.1 volume mem
    exact sizes
  · rintro cause ⟨size, declared, unread, rfl⟩
    exact .size mem declared unread

/-! ### The event before the start -/

/-- Exec commands are refused only for a container that there is none of. -/
theorem build_yields {shell : String} {names : Naming.Allocator} {commands : List Command}
    (areExec : ∀ command ∈ commands, ∃ body, command.body = .exec body) :
    Yields (PreStart.build containers shell names commands)
      (fun _ => ∀ command ∈ commands, ∀ body, command.body = .exec body →
        body.component ∈ containerNames containers)
      fun cause => ∃ command ∈ commands, ∃ body, command.body = .exec body ∧
        body.component ∉ containerNames containers ∧
        cause = .unknownComponent command.id body.component := by
  induction commands generalizing names with
  | nil => exact fun command mem => absurd mem List.not_mem_nil
  | cons first rest ih =>
    obtain ⟨body, isExec⟩ := areExec first List.mem_cons_self
    rw [PreStart.build, isExec]
    dsimp only
    split
    · rename_i missing
      refine ⟨first, List.mem_cons_self, body, isExec, fun known => ?_, rfl⟩
      obtain ⟨container, mem, isNamed⟩ := List.mem_map.mp known
      exact List.find?_eq_none.mp missing container mem (decide_eq_true isNamed)
    · rename_i base found
      have isNamed : base.name = body.component := by simpa using List.find?_some found
      have known : body.component ∈ containerNames containers :=
        List.mem_map.mpr ⟨base, List.mem_of_find?_eq_some found, isNamed⟩
      have others := @ih
        (names.allocate Naming.shortHash (PreStart.fullName body.component first.id)).2
        fun other mem => areExec other (List.mem_cons_of_mem _ mem)
      refine (others.imp_fail ?_).bind fun _ _ fit command mem other isOther => ?_
      · rintro cause ⟨command, mem, fault⟩
        exact ⟨command, List.mem_cons_of_mem first mem, fault⟩
      · rcases List.mem_cons.mp mem with rfl | mem
        · cases isExec.symm.trans isOther
          exact known
        · exact fit command mem other isOther

/-- The event is expanded first, so that only exec commands are left to be placed. -/
theorem preStartContainers_yields (params : PushParameters) (shell : String)
    (names : containerNames containers = devfile.containers.map (·.1)) :
    Yields (devfile.preStartContainers containers shell)
      (fun _ => ∀ id ∈ devfile.events.preStart,
        devfile.NamesCommand id ∧ devfile.HasExecParts id ∧
        ∀ command body, devfile.StandsFor id command → command.body = .exec body →
          body.component ∈ devfile.containers.map (·.1))
      fun cause => RenderFault devfile params (.synthesis cause) := by
  have expanded : Yields (devfile.expandEvent .preStart) _
      fun cause => RenderFault devfile params (.synthesis cause) :=
    Devfile.expandEvent_yields.imp_fail fun cause fault => by
      obtain ⟨id, mem, fault⟩ := fault
      exact .event mem fault
  refine expanded.bind fun commands done fit => ?_
  have built := @build_yields containers shell (PreStart.reserved containers) commands
    fun command mem => Devfile.exists_exec_of_expandEvent done mem
  rw [names] at built
  obtain ⟨fits, stands⟩ := fit
  refine (built.imp_fail ?_).imp_post fun _ placed id mem => ?_
  · rintro cause ⟨command, commandMem, body, isExec, missing, rfl⟩
    obtain ⟨id, mem, standsFor⟩ := (stands command).mp commandMem
    exact .misplaced mem standsFor isExec missing
  · obtain ⟨named, parts⟩ := fits id mem
    refine ⟨named, parts, fun command body standsFor isExec => ?_⟩
    exact placed command ((stands command).mpr ⟨id, mem, standsFor⟩) body isExec

/-! ### Rendering -/

/-- Stage by stage, each with what the stages before it have made sure of. -/
theorem render_yields (devfile : Devfile) (params : PushParameters) :
    Yields (render devfile params) (fun _ => Renderable devfile params)
      (RenderFault devfile params) := by
  unfold render
  have commands := resolvePushSet_yields devfile params
  refine commands.mapError.bind fun commands resolved groups => ?_
  have debug := requireDebug_yields devfile params
  refine debug.mapError.bind fun _ _ isSome => ?_
  have containers := synthesizeContainers_yields devfile params
  refine containers.mapError.bind fun synthesized isSynthesized mounts => ?_
  have names := containerNames_of_synthesizeContainers (Checked.mapError_eq_ok_iff.mp isSynthesized)
  obtain ⟨run, -, isRun⟩ :=
    Devfile.exists_run_of_resolvePushSet (Checked.mapError_eq_ok_iff.mp resolved)
  have wrapping := wrapContainers_yields params.overrides params.effectiveDebugPort names
  refine (wrapping.imp_fail ?_).bind fun containers isWrapped found => ?_
  · rintro failure ⟨_ | _, cause, isCause, rfl⟩
    · cases isRun.symm.trans isCause
    · exact .debugGroup isCause
  have placing := preStartContainers_yields params params.settings.shell
    ((containerNames_wrapContainers isWrapped).trans names)
  refine placing.mapError.bind fun preStart _ events => ?_
  have sizes := synthesizeClaims_yields devfile params (componentName devfile params)
    (componentLabels (componentName devfile params))
  refine sizes.mapError.bind fun claims _ sizes => ?_
  refine ⟨groups, ?_, mounts, ?_, ?_, ?_, sizes⟩
  · obtain ⟨debug, isDebug⟩ := found .debug
    refine ⟨debug, isDebug, fun asked => ?_⟩
    obtain ⟨command, isCommand⟩ := isSome asked
    cases isDebug.symm.trans isCommand
    exact ⟨command, rfl⟩
  · exact fun id mem => (events id mem).1
  · exact fun id mem => (events id mem).2.1
  · exact fun id mem => (events id mem).2.2

/-- A devfile is rendered exactly when it meets the conditions, and a failure names one that
it does not meet. -/
theorem render_succeeds_iff (devfile : Devfile) (params : PushParameters) :
    ((∃ desired, render devfile params = .ok desired) ↔ Renderable devfile params) ∧
      ∀ failure, render devfile params = .error failure → RenderFault devfile params failure := by
  have yields := render_yields devfile params
  refine ⟨⟨?_, fun renderable => ?_⟩, fun failure failed => yields.error failed⟩
  · rintro ⟨desired, rendered⟩
    exact yields.ok rendered
  · cases rendered : render devfile params with
    | ok desired => exact ⟨desired, rfl⟩
    | error failure => exact absurd renderable (yields.error rendered).not_renderable

/-- The sample component with a volume, and with a command before its start. -/
def Devfile.equipped : Devfile :=
  { Devfile.sample [] with
    components :=
      [⟨"main", .container { image := "alpine", volumeMounts := [{ name := "data" }] }⟩,
        ⟨"data", .volume { size := some "2Gi" }⟩]
    commands := (Devfile.sample []).commands ++ [⟨"setup", .composite { commands := ["PREPARE"] }⟩]
    events := { preStart := ["Setup"] } }

/-- It meets the conditions. -/
theorem renderable_equipped : Renderable .equipped {} := by
  have renders : (render .equipped {}).toOption.any (fun desired =>
      desired.claims.length = 1 && desired.initContainers.length = 2) = true := by
    decide +kernel
  obtain ⟨desired, rendered, -⟩ := Checked.exists_of_any_toOption renders
  exact (render_succeeds_iff .equipped {}).1.mp ⟨desired, rendered⟩

end DevfilePush
