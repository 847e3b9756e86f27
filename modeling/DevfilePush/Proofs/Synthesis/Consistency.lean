import DevfilePush.Proofs.Synthesis.Mounts
import DevfilePush.Proofs.Synthesis.Ports

/-!
How the objects of a rendered component refer to each other.

Containers mount volumes of the pod, volumes are backed by claims, the Deployment and the
Service find the pods by labels, and the Service forwards to ports of the containers. Each of
these is computed from the devfile by a function of its own. `Consistent` says that all of them
are resolved, and `consistent_of_render` that this is so for every devfile, also one in which
names occur more than once.
-/

namespace DevfilePush

open Kubernetes (Claim Container Service ServicePort Volume)

/-- The ports of the Service, none where there is no Service. -/
def DesiredComponent.servicePorts (desired : DesiredComponent) : List ServicePort :=
  ((desired.service.bind (·.spec)).bind (·.ports)).getD []

/-- What the objects of a component refer to is there. -/
structure DesiredComponent.Consistent (desired : DesiredComponent) : Prop where
  /-- Containers and init containers mount volumes of the pod. -/
  mounts : ∀ container ∈ desired.containers ++ desired.initContainers,
    ∀ mount ∈ container.mounts, ∃ volume ∈ desired.volumes, volume.name = mount.name
  /-- Volumes are backed by claims of the component. -/
  claims : ∀ volume ∈ desired.volumes, ∀ name, volume.source = some (.claim name) →
    ∃ claim ∈ desired.claims, claim.metadata.name = some name
  /-- The Deployment knows its pods by the component's labels, and these have them. -/
  matchLabels : desired.deployment.spec.bind (·.matchLabels) = some desired.labels
  templateLabels : (desired.deployment.spec.bind (·.template.metadata)).bind (·.labels) =
    some desired.labels
  /-- So does the Service. -/
  selector : ∀ service, desired.service = some service →
    service.spec.bind (·.selector) = some desired.labels
  /-- All objects carry the component's labels. -/
  deploymentLabels : desired.deployment.metadata.labels = some desired.labels
  serviceLabels : ∀ service, desired.service = some service →
    service.metadata.labels = some desired.labels
  claimLabels : ∀ claim ∈ desired.claims, claim.metadata.labels = some desired.labels
  /-- A port of the Service is a port of a container, with the same transport. -/
  ports : ∀ port ∈ desired.servicePorts, ∃ container ∈ desired.containers,
    ∃ declared ∈ container.ports.getD [],
      declared.containerPort = port.port ∧ declared.protocol = port.protocol

/-! ### Ports -/

variable {devfile : Devfile} {params : PushParameters} {desired : DesiredComponent}

/-- Whatever its endpoints are merged with, a port of the Service is one that a container
component declares. -/
theorem exists_endpoint_of_mem_servicePorts {port : ServicePort}
    (mem : port ∈ devfile.servicePorts) :
    ∃ component ∈ devfile.containers, ∃ endpoint ∈ component.2.endpoints,
      endpoint.targetPort = port.port ∧ some endpoint.protocol.transport = port.protocol := by
  obtain ⟨aggregated, isAggregated, rfl⟩ := List.mem_map.mp mem
  have sums := (Devfile.gathers_aggregatedPorts devfile).sums aggregated
    (List.mem_filter.mp isAggregated).1
  obtain ⟨endpoint, isFirst, isTransport⟩ := Option.map_eq_some_iff.mp sums.transport
  obtain ⟨isEndpoint, isPort⟩ := mem_sharing_iff.mp (List.mem_of_head? isFirst)
  obtain ⟨component, isComponent, isEndpoint⟩ := List.mem_flatMap.mp isEndpoint
  exact ⟨component, isComponent, endpoint, isEndpoint, isPort, congrArg some isTransport⟩

theorem servicePorts_of_render (rendered : render devfile params = .ok desired) :
    desired.servicePorts = devfile.servicePorts := by
  rw [DesiredComponent.servicePorts, (renders_of_render rendered).service,
    Devfile.synthesizeService]
  split
  · rename_i isEmpty
    exact (List.isEmpty_iff.mp isEmpty).symm
  · rfl

theorem exists_containerPort_of_render (rendered : render devfile params = .ok desired)
    {port : ServicePort} (mem : port ∈ desired.servicePorts) :
    ∃ container ∈ desired.containers, ∃ declared ∈ container.ports.getD [],
      declared.containerPort = port.port ∧ declared.protocol = port.protocol := by
  rw [servicePorts_of_render rendered] at mem
  obtain ⟨component, isComponent, endpoint, isEndpoint, isPort, isTransport⟩ :=
    exists_endpoint_of_mem_servicePorts mem
  obtain ⟨container, isContainer, fits⟩ :=
    exists_right_of_forall₂ (fits_of_render rendered) isComponent
  refine ⟨container, isContainer, endpoint.containerPort, ?_, isPort, isTransport⟩
  rw [fits.ports, getD_nonEmpty?]
  exact List.mem_map.mpr ⟨endpoint, isEndpoint, rfl⟩

/-! ### Claims -/

/-- A volume of the pod that is backed by a claim is that of a volume component, and the claim
is the component's. -/
theorem exists_claim_of_render (rendered : render devfile params = .ok desired) {volume : Volume}
    (mem : volume ∈ desired.volumes) {name : String}
    (isBacked : volume.source = some (.claim name)) :
    ∃ claim ∈ desired.claims, claim.metadata.name = some name := by
  obtain ⟨synthesized, containers, preStart, stages⟩ := exists_stages_of_render rendered
  rw [stages.volumes_eq] at mem
  rcases List.mem_append.mp mem with isOwn | isVolume
  · have isDirectory : volume.source = some .emptyDir := by
      rcases List.mem_append.mp isOwn with isOwn | isOwn
      all_goals
        split at isOwn
        · cases List.mem_singleton.mp isOwn
          rfl
        · cases isOwn
    cases isDirectory.symm.trans isBacked
  · obtain ⟨component, isComponent, rfl⟩ := List.mem_map.mp isVolume
    cases isBacked
    have isMetadata : .named (Naming.claimName desired.name component.1) desired.labels ∈
        desired.claims.map (·.metadata) := by
      rw [map_metadata_of_synthesizeClaims stages.claims]
      exact List.mem_map.mpr ⟨component, isComponent, rfl⟩
    obtain ⟨claim, isClaim, same⟩ := List.mem_map.mp isMetadata
    exact ⟨claim, isClaim, same ▸ rfl⟩

/-! ### Everything together -/

/-- The objects of a rendered component fit each other. -/
theorem consistent_of_render (rendered : render devfile params = .ok desired) :
    desired.Consistent := by
  have isRendered : desired.IsRendered := ⟨devfile, params, rendered⟩
  have labels := isRendered.labels_eq
  obtain ⟨containers, initContainers, volumes, built⟩ := isRendered.exists_buildDeployment
  constructor
  case mounts => exact fun container mem mount => exists_volume_of_render rendered mem
  case claims => exact fun volume mem name => exists_claim_of_render rendered mem
  case matchLabels =>
    rw [built, labels]
    rfl
  case templateLabels =>
    rw [built, labels]
    rfl
  case selector =>
    intro service isService
    obtain ⟨ports, rfl⟩ := isRendered.service_eq isService
    rw [labels]
    rfl
  case deploymentLabels =>
    rw [built, labels]
    rfl
  case serviceLabels =>
    intro service isService
    obtain ⟨ports, rfl⟩ := isRendered.service_eq isService
    rw [labels]
    rfl
  case claimLabels =>
    intro claim mem
    obtain ⟨name, isMetadata⟩ := isRendered.claim_metadata mem
    rw [isMetadata, labels]
    rfl
  case ports => exact fun port => exists_containerPort_of_render rendered

/-- A component in which everything refers to something: a volume, a command before the start,
and a port that two endpoints declare with different transports. -/
def Devfile.published : Devfile :=
  { Devfile.equipped with
    components :=
      [⟨"main", .container
          { image := "alpine"
            endpoints := [{ name := "dns", targetPort := 53, protocol := .udp },
              { name := "zone", targetPort := 53, protocol := .tcp }]
            volumeMounts := [{ name := "data" }] }⟩,
        ⟨"data", .volume { size := some "2Gi" }⟩] }

theorem consistent_published :
    ∃ desired, render .published {} = .ok desired ∧ desired.claims.length = 1 ∧
      desired.servicePorts.map (·.protocol) = [some "UDP"] ∧ desired.initContainers.length = 2 ∧
      desired.Consistent := by
  have renders : (render .published {}).toOption.any (fun desired =>
      desired.claims.length = 1 && desired.servicePorts.map (·.protocol) = [some "UDP"] &&
        desired.initContainers.length = 2) = true := by
    decide +kernel
  obtain ⟨desired, rendered, shape⟩ := Checked.exists_of_any_toOption renders
  simp only [Bool.and_eq_true, decide_eq_true_eq] at shape
  obtain ⟨⟨claims, ports⟩, initContainers⟩ := shape
  exact ⟨desired, rendered, claims, ports, initContainers, consistent_of_render rendered⟩

end DevfilePush
