import DevfilePush.Proofs.Synthesis.Event
import DevfilePush.Synthesis.Desired

/-!
The shape of a rendered component.

Every object of a component carries the name and the labels of the component, and the
labels follow from the name. `Renders` says what a successful rendering consists of;
the lemmas after it read off what writing the objects to a cluster goes by.
-/

namespace DevfilePush

open Kubernetes (Claim Container Service ServicePort Volume)

/-! ### The desired state -/

/-- A list that is left out when it is empty is read back as it was. -/
theorem getD_nonEmpty? {α : Type} (items : List α) : (nonEmpty? items).getD [] = items := by
  cases items <;> rfl

/-- What a desired state has to do with the devfile and the parameters that it was
rendered from. -/
structure Renders (devfile : Devfile) (params : PushParameters) (desired : DesiredComponent) :
    Prop where
  name : desired.name = componentName devfile params
  labels : desired.labels = componentLabels desired.name
  commands : devfile.resolvePushSet params.overrides = .ok desired.commands
  deployment : ∃ containers initContainers volumes, desired.deployment =
    buildDeployment desired.name desired.labels containers initContainers volumes
  service : desired.service = devfile.synthesizeService desired.name desired.labels
  claims : devfile.synthesizeClaims desired.name desired.labels = .ok desired.claims

/-- What the stages of a rendering have come to. -/
structure Stages (devfile : Devfile) (params : PushParameters) (desired : DesiredComponent)
    (synthesized containers preStart : List Container) : Prop where
  commands : devfile.resolvePushSet params.overrides = .ok desired.commands
  debug : devfile.requireDebug params = .ok ()
  isSynthesized : devfile.synthesizeContainers = .ok synthesized
  isWrapped : devfile.wrapContainers params.overrides params.effectiveDebugPort synthesized =
    .ok containers
  isPreStart : devfile.preStartContainers containers params.settings.shell = .ok preStart
  claims : devfile.synthesizeClaims desired.name desired.labels = .ok desired.claims
  name : desired.name = componentName devfile params
  labels : desired.labels = componentLabels desired.name
  deployment : desired.deployment =
    buildDeployment desired.name desired.labels containers
      ((if containers.any Container.isWrapped then
        [Supervisor.bootstrapContainer params.settings.bootstrapImage] else []) ++ preStart)
      (devfile.podVolumes desired.name containers)
  service : desired.service = devfile.synthesizeService desired.name desired.labels

/-- A rendering that succeeds has gone through all its stages. -/
theorem exists_stages_of_render {devfile : Devfile} {params : PushParameters}
    {desired : DesiredComponent} (rendered : render devfile params = .ok desired) :
    ∃ synthesized containers preStart,
      Stages devfile params desired synthesized containers preStart := by
  simp only [render, Checked.bind_eq_ok_iff, Checked.mapError_eq_ok_iff,
    Checked.pure_eq_ok_iff] at rendered
  obtain ⟨commands, resolved, ⟨⟩, debug, synthesized, isSynthesized, containers, isWrapped,
    preStart, isPreStart, claims, claimed, rfl⟩ := rendered
  refine ⟨synthesized, containers, preStart, ?_⟩
  -- Fields are projected before anything is compared: the name itself is a long
  -- computation that must not be unfolded.
  constructor <;> try dsimp only
  case commands => exact resolved
  case debug => exact debug
  case isSynthesized => exact isSynthesized
  case isWrapped => exact isWrapped
  case isPreStart => exact isPreStart
  case claims => exact claimed

namespace Stages

variable {devfile : Devfile} {params : PushParameters} {desired : DesiredComponent}
  {synthesized containers preStart : List Container}
  (stages : Stages devfile params desired synthesized containers preStart)

include stages

theorem containers_eq : desired.containers = containers := by
  rw [DesiredComponent.containers, stages.deployment]
  rfl

theorem initContainers_eq :
    desired.initContainers =
      (if containers.any Container.isWrapped then
        [Supervisor.bootstrapContainer params.settings.bootstrapImage] else []) ++ preStart := by
  rw [DesiredComponent.initContainers, stages.deployment]
  exact getD_nonEmpty? _

end Stages

theorem renders_of_render {devfile : Devfile} {params : PushParameters}
    {desired : DesiredComponent} (rendered : render devfile params = .ok desired) :
    Renders devfile params desired := by
  obtain ⟨synthesized, containers, preStart, stages⟩ := exists_stages_of_render rendered
  exact ⟨stages.name, stages.labels, stages.commands, ⟨_, _, _, stages.deployment⟩,
    stages.service, stages.claims⟩

/-- There is a claim for each volume component, and no other. -/
theorem map_metadata_of_synthesizeClaims {devfile : Devfile} {component : String}
    {labels : Labels} {claims : List Claim}
    (claimed : devfile.synthesizeClaims component labels = .ok claims) :
    claims.map (·.metadata) = devfile.volumes.map fun volume =>
      .named (Naming.claimName component volume.1) labels := by
  refine Checked.map_eq_map_of_mapM_eq_ok claimed fun volume claim made => ?_
  rw [VolumeBody.claim] at made
  split at made
  · cases made
  · cases made
    rfl

/-- A desired state that some devfile renders to. -/
def DesiredComponent.IsRendered (desired : DesiredComponent) : Prop :=
  ∃ devfile params, render devfile params = .ok desired

namespace DesiredComponent.IsRendered

variable {desired : DesiredComponent} (rendered : desired.IsRendered)

include rendered

theorem labels_eq : desired.labels = componentLabels desired.name := by
  obtain ⟨devfile, params, rendered⟩ := rendered
  exact (renders_of_render rendered).labels

theorem exists_buildDeployment :
    ∃ containers initContainers volumes, desired.deployment =
      buildDeployment desired.name (componentLabels desired.name) containers initContainers
        volumes := by
  obtain ⟨devfile, params, rendered⟩ := rendered
  have renders := renders_of_render rendered
  rw [← renders.labels]
  exact renders.deployment

/-- The Deployment is called what the component is called. -/
theorem deployment_metadata :
    desired.deployment.metadata = .named desired.name (componentLabels desired.name) := by
  obtain ⟨containers, initContainers, volumes, same⟩ := rendered.exists_buildDeployment
  rw [same]
  rfl

theorem deployment_nameOrEmpty : desired.deployment.metadata.nameOrEmpty = desired.name := by
  rw [rendered.deployment_metadata]
  rfl

/-- The version that it is to be written over has nothing to do with that. -/
theorem withVersion_nameOrEmpty (version : Option String) :
    (desired.deployment.withVersion version).metadata.nameOrEmpty = desired.name :=
  rendered.deployment_nameOrEmpty

/-- The pods of the Deployment carry the component's labels. -/
theorem templateLabels_eq : desired.deployment.templateLabels = componentLabels desired.name := by
  obtain ⟨containers, initContainers, volumes, same⟩ := rendered.exists_buildDeployment
  rw [same]
  rfl

/-- The Service is called what the component is called, and has ports and a selector but
no address yet. -/
theorem service_eq {service : Service} (isService : desired.service = some service) :
    ∃ ports, service =
      { metadata := .named desired.name (componentLabels desired.name)
        spec := some
          { ports := some ports, selector := some (componentLabels desired.name) } } := by
  obtain ⟨devfile, params, rendered⟩ := rendered
  have renders := renders_of_render rendered
  rw [renders.service, Devfile.synthesizeService] at isService
  split at isService
  · cases isService
  · cases isService
    rw [renders.labels]
    exact ⟨devfile.servicePorts, rfl⟩

/-- Claims have names of their own and the labels of the component. -/
theorem claim_metadata {claim : Claim} (mem : claim ∈ desired.claims) :
    ∃ name, claim.metadata = .named name (componentLabels desired.name) := by
  obtain ⟨devfile, params, rendered⟩ := rendered
  have renders := renders_of_render rendered
  have claimed := renders.claims
  rw [renders.labels] at claimed
  have isMetadata : claim.metadata ∈ desired.claims.map (·.metadata) :=
    List.mem_map.mpr ⟨claim, mem, rfl⟩
  rw [map_metadata_of_synthesizeClaims claimed] at isMetadata
  obtain ⟨volume, -, same⟩ := List.mem_map.mp isMetadata
  exact ⟨Naming.claimName desired.name volume.1, same.symm⟩

end DesiredComponent.IsRendered

/-! ### A small component -/

/-- What is run once in the sample component. -/
def ExecBody.samplePreparation : ExecBody :=
  { component := "main", commandLine := "make", group := some ⟨.init, true⟩ }

def Command.samplePreparation : Command :=
  ⟨"prepare", .exec .samplePreparation⟩

/-- One container with the given ports, a command that prepares it and a command that
runs in it. -/
def Devfile.sample (ports : List Int) : Devfile :=
  { metadata := { name := some "web" }
    components := [⟨"main", .container
      { image := "alpine"
        endpoints := ports.map fun port => { name := "http", targetPort := port } }⟩]
    commands :=
      [.samplePreparation,
        ⟨"serve", .exec
          { component := "main", commandLine := "make serve", group := some ⟨.run, true⟩ }⟩] }

end DevfilePush
