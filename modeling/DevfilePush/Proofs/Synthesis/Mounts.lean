import DevfilePush.Proofs.Synthesis.Acceptance
import DevfilePush.Proofs.Synthesis.PreStart

/-!
What the containers of a rendered component mount.

A container mounts the project sources and the volumes that its component names, and with the
supervisor as its program the supervisor's volume (`fits_of_render`). An init container mounts
what the container mounts that it is a copy of, and the one that brings the supervisor along
comes with the supervisor's volume. So each mount is of a volume of the pod
(`exists_volume_of_render`).
-/

namespace DevfilePush

open Kubernetes (Container Volume VolumeMount)

/-- The volumes of the pod. -/
def DesiredComponent.volumes (desired : DesiredComponent) : List Volume :=
  (desired.deployment.podSpec?.bind (·.volumes)).getD []

theorem Stages.volumes_eq {devfile : Devfile} {params : PushParameters}
    {desired : DesiredComponent} {synthesized containers preStart : List Container}
    (stages : Stages devfile params desired synthesized containers preStart) :
    desired.volumes = devfile.podVolumes desired.name containers := by
  rw [DesiredComponent.volumes, stages.deployment]
  exact getD_nonEmpty? _

/-! ### Containers and their components -/

/-- What a container component mounts. -/
def ContainerBody.mounts (body : ContainerBody) : List VolumeMount :=
  (if body.mountsSources then [⟨projectsVolume, body.sourceMount⟩] else []) ++
    body.volumeMounts.map VolumeMountRef.mount

variable {devfile : Devfile} {params : PushParameters} {desired : DesiredComponent}

@[simp] theorem ContainerBody.base_mounts {body : ContainerBody} {name : String} :
    (body.base name).mounts = [] := rfl

@[simp] theorem ContainerBody.base_ports {body : ContainerBody} {name : String} :
    (body.base name).ports = nonEmpty? (body.endpoints.map Endpoint.containerPort) := rfl

/-- A container has the ports of its component's endpoints and mounts what the component
mounts. -/
theorem mounts_of_containerFor {name : String} {body : ContainerBody} {container : Container}
    (done : devfile.containerFor name body = .ok container) :
    container.mounts = body.mounts ∧
      container.ports = nonEmpty? (body.endpoints.map Endpoint.containerPort) := by
  obtain ⟨-, ports, -, mounts⟩ := withVolumes_spec done
  rw [mounts, ports, ContainerBody.mounts]
  unfold Devfile.withSources
  split <;> simp

/-- A container is rendered from a component. -/
structure ContainerBody.Fits (component : String × ContainerBody) (container : Container) :
    Prop where
  name : container.name = component.1
  ports : container.ports = nonEmpty? (component.2.endpoints.map Endpoint.containerPort)
  keeps : ∀ mount ∈ component.2.mounts, mount ∈ container.mounts
  mounts : ∀ mount ∈ container.mounts, mount ∈ component.2.mounts ∨
    (mount.name = Supervisor.volumeName ∧ container.isWrapped = true)

/-- The containers of the pod are those of the container components, one for one. -/
theorem fits_of_render (rendered : render devfile params = .ok desired) :
    List.Forall₂ ContainerBody.Fits devfile.containers desired.containers := by
  obtain ⟨synthesized, containers, preStart, stages⟩ := exists_stages_of_render rendered
  rw [stages.containers_eq]
  have made := Checked.forall₂_of_mapM_eq_ok stages.isSynthesized
  have extended := extends_of_wrapContainers stages.isWrapped
  refine forall₂_comp (fun component before after done extended => ?_) made extended
  obtain ⟨mounts, ports⟩ := mounts_of_containerFor done
  have name := extended.name.trans (name_of_containerFor done)
  rw [← extended.ports] at ports
  rcases extended.mounts with same | ⟨-, isWrapped, isAdded⟩
  · exact ⟨name, ports, fun _ mem => same ▸ mounts ▸ mem,
      fun _ mem => .inl (mounts ▸ same ▸ mem)⟩
  · refine ⟨name, ports, fun mount mem => ?_, fun mount mem => ?_⟩
    · rw [isAdded, mounts]
      exact List.mem_append_left _ mem
    · rw [isAdded, mounts] at mem
      rcases List.mem_append.mp mem with mem | mem
      · exact .inl mem
      · cases List.mem_singleton.mp mem
        exact .inr ⟨rfl, isWrapped⟩

/-! ### Volumes -/

theorem map_name_podVolumes {name : String} {containers : List Container} :
    (devfile.podVolumes name containers).map (·.name) =
      (if containers.any Container.isWrapped then [Supervisor.volumeName] else []) ++
        (if containers.any (·.hasMount projectsVolume) then [projectsVolume] else []) ++
        devfile.volumes.map (·.1) := by
  simp only [Devfile.podVolumes, List.map_append, List.map_map]
  congr 2 <;> split <;> rfl

/-- What a container mounts is a volume of the pod: the sources and the supervisor have theirs
where they are mounted, and a component names volumes that there are. -/
theorem exists_podVolume_of_fits {containers : List Container}
    (fits : List.Forall₂ ContainerBody.Fits devfile.containers containers)
    (renderable : Renderable devfile params) {name : String} {container : Container}
    (mem : container ∈ containers) {mount : VolumeMount} (isMount : mount ∈ container.mounts) :
    ∃ volume ∈ devfile.podVolumes name containers, volume.name = mount.name := by
  refine List.mem_map.mp (map_name_podVolumes ▸ ?_)
  obtain ⟨component, isComponent, fits⟩ := exists_left_of_forall₂ fits mem
  rcases fits.mounts mount isMount with isOwn | ⟨isSupervisor, isWrapped⟩
  · rcases List.mem_append.mp isOwn with isSources | isVolume
    · split at isSources
      · cases List.mem_singleton.mp isSources
        have mounted : containers.any (·.hasMount projectsVolume) = true :=
          List.any_eq_true.mpr ⟨container, mem, Container.hasMount_eq_true_iff.mpr
            ⟨_, isMount, rfl⟩⟩
        simp [mounted]
      · cases isSources
    · obtain ⟨reference, isReference, rfl⟩ := List.mem_map.mp isVolume
      obtain ⟨volume, isVolume, isNamed⟩ :=
        renderable.mounts component isComponent reference isReference
      exact List.mem_append_right _ (List.mem_map.mpr ⟨volume, isVolume, isNamed⟩)
  · have wraps : containers.any Container.isWrapped = true :=
      List.any_eq_true.mpr ⟨container, mem, isWrapped⟩
    simp [wraps, isSupervisor]

/-- Each mount of a container or init container is of a volume of the pod. -/
theorem exists_volume_of_render (rendered : render devfile params = .ok desired)
    {container : Container} (mem : container ∈ desired.containers ++ desired.initContainers)
    {mount : VolumeMount} (isMount : mount ∈ container.mounts) :
    ∃ volume ∈ desired.volumes, volume.name = mount.name := by
  have fits := fits_of_render rendered
  have renderable := (render_succeeds_iff devfile params).1.mp ⟨desired, rendered⟩
  obtain ⟨synthesized, containers, preStart, stages⟩ := exists_stages_of_render rendered
  rw [stages.containers_eq] at fits mem
  rw [stages.initContainers_eq] at mem
  rw [stages.volumes_eq]
  rcases List.mem_append.mp mem with mem | mem
  · exact exists_podVolume_of_fits fits renderable mem isMount
  rcases List.mem_append.mp mem with mem | mem
  · -- The supervisor's own init container is there only with its volume.
    split at mem
    · rename_i wraps
      cases List.mem_singleton.mp mem
      cases List.mem_singleton.mp isMount
      exact List.mem_map.mp (map_name_podVolumes ▸ by simp [wraps])
    · cases mem
  · obtain ⟨commands, done⟩ := exists_build_of_preStartContainers stages.isPreStart
    obtain ⟨base, isBase, same⟩ := PreStart.exists_base_of_build done mem
    exact exists_podVolume_of_fits fits renderable isBase (same ▸ isMount)

end DevfilePush
