import DevfilePush.Proofs.Synthesis.Consistency

/-!
The names in a rendered component.

Names that rendering makes up are cut to the length of a label, and those of init containers
are different from all names of containers. The names of container and volume components are
taken over as they are. So a container can have the name of the supervisor's init container and
a volume that of the supervisor's or the sources' volume, and then the pod has one name twice
(`names_nodup_iff`); and a component with a name that is too long makes for a container or a
volume with a name that is too long (`names_fit_iff`).
-/

namespace DevfilePush

open Kubernetes (Container)

variable {devfile : Devfile} {params : PushParameters} {desired : DesiredComponent}

/-! ### The names of components -/

/-- Components of one kind come in the order of all components. -/
theorem sublist_names {α : Type} {part? : Component → Option (String × α)}
    (named : ∀ component part, part? component = some part → part.1 = component.name)
    (components : List Component) :
    ((components.filterMap part?).map (·.1)).Sublist (components.map (·.name)) := by
  induction components with
  | nil => exact .slnil
  | cons component rest ih =>
    rw [List.filterMap_cons, List.map_cons]
    split
    · exact ih.cons component.name
    · rename_i part isPart
      rw [List.map_cons, named component part isPart]
      exact ih.cons_cons component.name

theorem sublist_containers :
    (devfile.containers.map (·.1)).Sublist (devfile.components.map (·.name)) := by
  refine sublist_names (fun component part isPart => ?_) devfile.components
  unfold Component.container? at isPart
  split at isPart
  · cases isPart
    rfl
  · cases isPart

theorem sublist_volumes :
    (devfile.volumes.map (·.1)).Sublist (devfile.components.map (·.name)) := by
  refine sublist_names (fun component part isPart => ?_) devfile.components
  unfold Component.volume? at isPart
  split at isPart
  · cases isPart
  · cases isPart
    rfl

/-- A component is a container or a volume. -/
theorem mem_names_iff {name : String} :
    name ∈ devfile.components.map (·.name) ↔
      name ∈ devfile.containers.map (·.1) ∨ name ∈ devfile.volumes.map (·.1) := by
  constructor
  · intro mem
    obtain ⟨⟨name, body⟩, isComponent, rfl⟩ := List.mem_map.mp mem
    cases body with
    | container body =>
      have isPart : (name, body) ∈ devfile.containers :=
        List.mem_filterMap.mpr ⟨_, isComponent, rfl⟩
      exact .inl (List.mem_map.mpr ⟨(name, body), isPart, rfl⟩)
    | volume body =>
      have isPart : (name, body) ∈ devfile.volumes :=
        List.mem_filterMap.mpr ⟨_, isComponent, rfl⟩
      exact .inr (List.mem_map.mpr ⟨(name, body), isPart, rfl⟩)
  · rintro (mem | mem)
    · exact sublist_containers.subset mem
    · exact sublist_volumes.subset mem

/-! ### Names that occur once -/

/-- A container component mounts a volume of the name that the sources' volume has: because it
wants the sources, or because it says so. -/
def Devfile.MountsProjects (devfile : Devfile) : Prop :=
  ∃ component ∈ devfile.containers, ∃ mount ∈ component.2.mounts, mount.name = projectsVolume

theorem any_hasMount_iff {containers : List Container}
    (fits : List.Forall₂ ContainerBody.Fits devfile.containers containers) :
    containers.any (·.hasMount projectsVolume) = true ↔ devfile.MountsProjects := by
  have others : Supervisor.volumeName ≠ projectsVolume := by decide
  rw [List.any_eq_true]
  constructor
  · rintro ⟨container, mem, mounts⟩
    obtain ⟨mount, isMount, isProjects⟩ := Container.hasMount_eq_true_iff.mp mounts
    obtain ⟨component, isComponent, fits⟩ := exists_left_of_forall₂ fits mem
    rcases fits.mounts mount isMount with isOwn | ⟨isSupervisor, -⟩
    · exact ⟨component, isComponent, mount, isOwn, isProjects⟩
    · exact absurd (isSupervisor.symm.trans isProjects) others
  · rintro ⟨component, isComponent, mount, isMount, isProjects⟩
    obtain ⟨container, mem, fits⟩ := exists_right_of_forall₂ fits isComponent
    exact ⟨container, mem, Container.hasMount_eq_true_iff.mpr
      ⟨mount, fits.keeps mount isMount, isProjects⟩⟩

/-- The supervisor's init container comes first, and the others have names of their own. -/
theorem containerNames_initContainers (rendered : render devfile params = .ok desired) :
    ∃ others, containerNames desired.initContainers = Supervisor.bootstrapName :: others ∧
      others.Nodup ∧ Supervisor.bootstrapName ∉ others ∧
      ∀ name ∈ others, name ∉ containerNames desired.containers := by
  obtain ⟨synthesized, containers, preStart, stages⟩ := exists_stages_of_render rendered
  obtain ⟨commands, done⟩ := exists_build_of_preStartContainers stages.isPreStart
  obtain ⟨distinct, unused⟩ := PreStart.names_of_build done
  rw [PreStart.used_reserved] at unused
  rw [stages.initContainers_eq, stages.containers_eq, if_pos stages.any_isWrapped]
  refine ⟨containerNames preStart, rfl, distinct, fun mem => ?_, fun name mem isUsed => ?_⟩
  · exact unused _ mem (List.mem_append_right _ (List.mem_singleton_self _))
  · exact unused name mem (List.mem_append_left _ (List.mem_reverse.mpr isUsed))

/-- The supervisor's volume comes first, then that of the sources where it is mounted, then those
of the volume components. -/
theorem map_name_volumes (rendered : render devfile params = .ok desired) :
    (devfile.MountsProjects → desired.volumes.map (·.name) =
        Supervisor.volumeName :: projectsVolume :: devfile.volumes.map (·.1)) ∧
      (¬ devfile.MountsProjects → desired.volumes.map (·.name) =
        Supervisor.volumeName :: devfile.volumes.map (·.1)) := by
  have fits := fits_of_render rendered
  obtain ⟨synthesized, containers, preStart, stages⟩ := exists_stages_of_render rendered
  rw [stages.containers_eq] at fits
  rw [stages.volumes_eq, map_name_podVolumes, if_pos stages.any_isWrapped]
  constructor
  · intro mounts
    rw [if_pos ((any_hasMount_iff fits).mpr mounts)]
    rfl
  · intro mountsNot
    rw [if_neg fun mounted => mountsNot ((any_hasMount_iff fits).mp mounted)]
    rfl

theorem nodup_containerNames_iff (distinct : (devfile.components.map (·.name)).Nodup)
    (rendered : render devfile params = .ok desired) :
    (containerNames (desired.containers ++ desired.initContainers)).Nodup ↔
      Supervisor.bootstrapName ∉ devfile.containers.map (·.1) := by
  obtain ⟨others, isInit, othersDistinct, notBootstrap, disjoint⟩ :=
    containerNames_initContainers rendered
  have split : containerNames (desired.containers ++ desired.initContainers) =
      devfile.containers.map (·.1) ++ Supervisor.bootstrapName :: others := by
    rw [← isInit, ← containerNames_of_render rendered]
    exact List.map_append
  rw [containerNames_of_render rendered] at disjoint
  rw [split, List.nodup_append']
  constructor
  · intro nodup isName
    exact nodup.2.2 isName List.mem_cons_self
  · intro notName
    refine ⟨sublist_containers.nodup distinct,
      List.nodup_cons.mpr ⟨notBootstrap, othersDistinct⟩, fun name isName mem => ?_⟩
    rcases List.mem_cons.mp mem with rfl | mem
    · exact notName isName
    · exact disjoint name mem isName

theorem nodup_volumeNames_iff (distinct : (devfile.components.map (·.name)).Nodup)
    (rendered : render devfile params = .ok desired) :
    (desired.volumes.map (·.name)).Nodup ↔
      Supervisor.volumeName ∉ devfile.volumes.map (·.1) ∧
        (devfile.MountsProjects → projectsVolume ∉ devfile.volumes.map (·.1)) := by
  have volumes : (devfile.volumes.map (·.1)).Nodup := sublist_volumes.nodup distinct
  have others : Supervisor.volumeName ≠ projectsVolume := by decide
  obtain ⟨withProjects, without⟩ := map_name_volumes rendered
  by_cases mounts : devfile.MountsProjects
  · rw [withProjects mounts, List.nodup_cons, List.nodup_cons]
    simp [mounts, volumes, others]
  · rw [without mounts, List.nodup_cons]
    simp [mounts, volumes]

/-- Components of different names make for a pod in which each name occurs once, unless a
container has the name of the supervisor's init container, or a volume that of a volume that the
pod has anyway. -/
theorem names_nodup_iff (distinct : (devfile.components.map (·.name)).Nodup)
    (rendered : render devfile params = .ok desired) :
    ((containerNames (desired.containers ++ desired.initContainers)).Nodup ↔
        Supervisor.bootstrapName ∉ devfile.containers.map (·.1)) ∧
      ((desired.volumes.map (·.name)).Nodup ↔
        Supervisor.volumeName ∉ devfile.volumes.map (·.1) ∧
          (devfile.MountsProjects → projectsVolume ∉ devfile.volumes.map (·.1))) :=
  ⟨nodup_containerNames_iff distinct rendered, nodup_volumeNames_iff distinct rendered⟩

/-- The sample component that uses all there is has no such names. -/
theorem names_nodup_published :
    ∃ desired, render .published {} = .ok desired ∧
      (containerNames (desired.containers ++ desired.initContainers)).Nodup ∧
      (desired.volumes.map (·.name)).Nodup := by
  have renders : (render .published {}).toOption.any (fun _ => true) = true := by decide +kernel
  obtain ⟨desired, rendered, -⟩ := Checked.exists_of_any_toOption renders
  have iffs := names_nodup_iff (by decide) rendered
  exact ⟨desired, rendered, iffs.1.mpr (by decide), iffs.2.mpr ⟨by decide, fun _ => by decide⟩⟩

/-- A component of one container and one volume, called as asked for. -/
def Devfile.calling (container volume : String) : Devfile :=
  { Devfile.sample [] with
    components := [⟨container, .container { image := "alpine" }⟩, ⟨volume, .volume {}⟩]
    commands :=
      [⟨"prepare", .exec { ExecBody.samplePreparation with component := container }⟩,
        ⟨"serve", .exec
          { component := container, commandLine := "make serve", group := some ⟨.run, true⟩ }⟩] }

/-- With names that the pod has anyway, it has two containers of one name and two volumes of one
name. -/
theorem not_nodup_of_builtin_names :
    ∃ desired,
      ((Devfile.calling Supervisor.bootstrapName projectsVolume).components.map (·.name)).Nodup ∧
      render (.calling Supervisor.bootstrapName projectsVolume) {} = .ok desired ∧
      ¬ (containerNames (desired.containers ++ desired.initContainers)).Nodup ∧
      ¬ (desired.volumes.map (·.name)).Nodup := by
  have renders : (render (.calling Supervisor.bootstrapName projectsVolume) {}).toOption.any
      (fun desired =>
        ¬ (containerNames (desired.containers ++ desired.initContainers)).Nodup &&
          ¬ (desired.volumes.map (·.name)).Nodup) = true := by
    decide +kernel
  obtain ⟨desired, rendered, twice⟩ := Checked.exists_of_any_toOption renders
  simp only [Bool.and_eq_true, decide_eq_true_eq] at twice
  exact ⟨desired, by decide, rendered, twice.1, twice.2⟩

/-! ### Names that fit a label -/

/-- The names that rendering makes up: those of the cluster objects and of the init
containers. -/
def DesiredComponent.generatedNames (desired : DesiredComponent) : List String :=
  desired.deployment.metadata.name.toList ++ (desired.service.bind (·.metadata.name)).toList ++
    desired.claims.filterMap (·.metadata.name) ++ containerNames desired.initContainers

/-- The names that come from the devfile: those of the containers and volumes of the pod. -/
def DesiredComponent.adoptedNames (desired : DesiredComponent) : List String :=
  containerNames desired.containers ++ desired.volumes.map (·.name)

theorem length_le_of_mem_initContainers (rendered : render devfile params = .ok desired)
    (few : desired.containers.length + desired.initContainers.length < 2 ^ 64)
    {container : Container} (mem : container ∈ desired.initContainers) :
    container.name.length ≤ Naming.maxLength := by
  obtain ⟨synthesized, containers, preStart, stages⟩ := exists_stages_of_render rendered
  obtain ⟨commands, done⟩ := exists_build_of_preStartContainers stages.isPreStart
  rw [stages.initContainers_eq, if_pos stages.any_isWrapped] at few mem
  rw [stages.containers_eq] at few
  rcases List.mem_cons.mp mem with rfl | mem
  · have fits : Supervisor.bootstrapName.length ≤ Naming.maxLength := by decide
    exact fits
  · refine PreStart.length_name_of_build done ?_ mem
    rw [PreStart.used_reserved]
    simp only [List.length_append, List.length_reverse, List.length_singleton, containerNames,
      List.length_map] at few ⊢
    omega

theorem length_le_of_mem_generatedNames (rendered : render devfile params = .ok desired)
    (few : desired.containers.length + desired.initContainers.length < 2 ^ 64) {name : String}
    (mem : name ∈ desired.generatedNames) : name.length ≤ Naming.maxLength := by
  have isRendered : desired.IsRendered := ⟨devfile, params, rendered⟩
  have renders := renders_of_render rendered
  have fits : desired.name.length ≤ Naming.maxLength :=
    renders.name ▸ Naming.length_normalize_le _
  rcases List.mem_append.mp mem with mem | isInit
  rcases List.mem_append.mp mem with mem | isClaim
  rcases List.mem_append.mp mem with isDeployment | isService
  · rw [isRendered.deployment_metadata] at isDeployment
    cases List.mem_singleton.mp isDeployment
    exact fits
  · have isName := Option.mem_toList.mp isService
    obtain ⟨service, isService, isName⟩ := Option.bind_eq_some_iff.mp isName
    obtain ⟨ports, rfl⟩ := isRendered.service_eq isService
    cases isName
    exact fits
  · obtain ⟨claim, isClaim, isName⟩ := List.mem_filterMap.mp isClaim
    have isMetadata : claim.metadata ∈ desired.claims.map (·.metadata) :=
      List.mem_map.mpr ⟨claim, isClaim, rfl⟩
    rw [map_metadata_of_synthesizeClaims renders.claims] at isMetadata
    obtain ⟨volume, -, same⟩ := List.mem_map.mp isMetadata
    rw [← same] at isName
    cases isName
    exact Naming.length_claimName_le _ _
  · obtain ⟨container, found, rfl⟩ := List.mem_map.mp isInit
    exact length_le_of_mem_initContainers rendered few found

/-- What the names of containers and volumes are. -/
theorem mem_adoptedNames_iff (rendered : render devfile params = .ok desired) {name : String} :
    name ∈ desired.adoptedNames ↔
      name ∈ devfile.components.map (·.name) ∨ name = Supervisor.volumeName ∨
        (name = projectsVolume ∧ devfile.MountsProjects) := by
  obtain ⟨withProjects, without⟩ := map_name_volumes rendered
  rw [DesiredComponent.adoptedNames, containerNames_of_render rendered, mem_names_iff,
    List.mem_append]
  by_cases mounts : devfile.MountsProjects
  · rw [withProjects mounts, List.mem_cons, List.mem_cons]
    tauto
  · rw [without mounts, List.mem_cons]
    tauto

/-- The names that rendering makes up fit a label, however long the names are that they are
made of. All names do exactly when those of the components do. There are no more containers
than a machine can count. -/
theorem names_fit_iff (rendered : render devfile params = .ok desired)
    (few : desired.containers.length + desired.initContainers.length < 2 ^ 64) :
    (∀ name ∈ desired.generatedNames, name.length ≤ Naming.maxLength) ∧
      ((∀ name ∈ desired.generatedNames ++ desired.adoptedNames,
          name.length ≤ Naming.maxLength) ↔
        ∀ component ∈ devfile.components, component.name.length ≤ Naming.maxLength) := by
  have generated : ∀ name ∈ desired.generatedNames, name.length ≤ Naming.maxLength :=
    fun name => length_le_of_mem_generatedNames rendered few
  refine ⟨generated, fun fit component mem => ?_, fun fit name mem => ?_⟩
  · refine fit _ (List.mem_append_right _ ((mem_adoptedNames_iff rendered).mpr (.inl ?_)))
    exact List.mem_map.mpr ⟨component, mem, rfl⟩
  · rcases List.mem_append.mp mem with mem | mem
    · exact generated name mem
    · rcases (mem_adoptedNames_iff rendered).mp mem with isComponent | rfl | ⟨rfl, -⟩
      · obtain ⟨component, found, rfl⟩ := List.mem_map.mp isComponent
        exact fit component found
      · decide
      · decide

theorem names_fit_published :
    ∃ desired, render .published {} = .ok desired ∧
      desired.containers.length + desired.initContainers.length < 2 ^ 64 ∧
      ∀ name ∈ desired.generatedNames ++ desired.adoptedNames,
        name.length ≤ Naming.maxLength := by
  have renders : (render .published {}).toOption.any (fun desired =>
      desired.containers.length + desired.initContainers.length < 2 ^ 64) = true := by
    decide +kernel
  obtain ⟨desired, rendered, few⟩ := Checked.exists_of_any_toOption renders
  have few := of_decide_eq_true few
  exact ⟨desired, rendered, few, (names_fit_iff rendered few).2.mpr (by decide)⟩

/-- A container of a name that is one character too long is rendered as it is. -/
theorem not_fit_of_long_name :
    ∃ desired, render (.calling (String.ofList (List.replicate 64 'a')) "data") {} = .ok desired ∧
      ∃ name ∈ desired.generatedNames ++ desired.adoptedNames, Naming.maxLength < name.length := by
  have renders : (render (.calling (String.ofList (List.replicate 64 'a')) "data") {}).toOption.any
      (fun desired => (desired.generatedNames ++ desired.adoptedNames).any fun name =>
        Naming.maxLength < name.length) = true := by
    decide +kernel
  obtain ⟨desired, rendered, tooLong⟩ := Checked.exists_of_any_toOption renders
  obtain ⟨name, mem, isLong⟩ := List.any_eq_true.mp tooLong
  exact ⟨desired, rendered, name, mem, of_decide_eq_true isLong⟩

end DevfilePush
