import DevfilePush.Proofs.Command.Expansion
import DevfilePush.Proofs.Command.Selection
import DevfilePush.Proofs.Command.Validity
import DevfilePush.Proofs.Synthesis.Rendering
import Mathlib.Data.List.Forall2

/-!
Which containers there are.

Mounts, variables and the supervisor are added to containers that keep their names, so the
containers of a rendered component are called what the container components of the devfile
are called (`containerNames_of_render`). An exec command that passes its checks names one of them.
-/

namespace DevfilePush

open Kubernetes (Container VolumeMount)

/-! ### Changes to a container -/

namespace Kubernetes.Container

variable {container : Container}

theorem hasEnv_eq_true_iff {name : String} :
    container.hasEnv name = true ↔ name ∈ container.envVars.map (·.name) := by
  simp [hasEnv]

theorem hasMount_eq_true_iff {name : String} :
    container.hasMount name = true ↔ ∃ mount ∈ container.mounts, mount.name = name := by
  simp [hasMount]

@[simp] theorem addMount_name {volume path : String} :
    (container.addMount volume path).name = container.name := rfl

@[simp] theorem addEnvIfAbsent_name {var value : String} :
    (container.addEnvIfAbsent var value).name = container.name := by
  unfold addEnvIfAbsent
  split <;> rfl

@[simp] theorem addMount_mounts {volume path : String} :
    (container.addMount volume path).mounts = container.mounts ++ [⟨volume, path⟩] := rfl

@[simp] theorem addEnvIfAbsent_mounts {var value : String} :
    (container.addEnvIfAbsent var value).mounts = container.mounts := by
  unfold addEnvIfAbsent
  split <;> rfl

@[simp] theorem addMount_ports {volume path : String} :
    (container.addMount volume path).ports = container.ports := rfl

@[simp] theorem addMount_envVars {volume path : String} :
    (container.addMount volume path).envVars = container.envVars := rfl

@[simp] theorem addEnvIfAbsent_ports {var value : String} :
    (container.addEnvIfAbsent var value).ports = container.ports := by
  unfold addEnvIfAbsent
  split <;> rfl

@[simp] theorem wrapped_name : container.wrapped.name = container.name := by
  unfold wrapped
  dsimp only
  split <;> rfl

@[simp] theorem hosting_name {program : Supervisor.Program} {body : ExecBody} :
    (container.hosting program body).name = container.name := by
  unfold hosting
  dsimp only
  split
  · split <;> simp
  · simp

@[simp] theorem hostDebug_name {port : Int} {body : ExecBody} :
    (Supervisor.hostDebug port body container).name = container.name := by
  simp [Supervisor.hostDebug]

end Kubernetes.Container

/-! ### Rendered containers -/

/-- The names of containers, in order. -/
def containerNames (containers : List Container) : List String :=
  containers.map (·.name)

variable {devfile : Devfile} {containers changed : List Container}

/-- Two lists that are related item by item through a third. -/
theorem forall₂_comp {α β γ : Type} {before : α → β → Prop} {after : β → γ → Prop}
    {related : α → γ → Prop} (comp : ∀ a b c, before a b → after b c → related a c)
    {first : List α} {second : List β} {third : List γ} (isFirst : List.Forall₂ before first second)
    (isSecond : List.Forall₂ after second third) : List.Forall₂ related first third := by
  induction isFirst generalizing third with
  | nil =>
    cases isSecond
    exact .nil
  | cons isRelated _ ih =>
    cases isSecond with
    | cons isNext others => exact .cons (comp _ _ _ isRelated isNext) (ih others)

/-- Each item on the left has its partner on the right. -/
theorem exists_right_of_forall₂ {α β : Type} {related : α → β → Prop} {left : List α}
    {right : List β} (all : List.Forall₂ related left right) {item : α} (mem : item ∈ left) :
    ∃ partner ∈ right, related item partner := by
  induction all with
  | nil => cases mem
  | cons isRelated _ ih =>
    rcases List.mem_cons.mp mem with rfl | mem
    · exact ⟨_, List.mem_cons_self, isRelated⟩
    · obtain ⟨partner, isPartner, isRelated⟩ := ih mem
      exact ⟨partner, List.mem_cons_of_mem _ isPartner, isRelated⟩

/-- Each item on the right has its partner on the left. -/
theorem exists_left_of_forall₂ {α β : Type} {related : α → β → Prop} {left : List α}
    {right : List β} (all : List.Forall₂ related left right) {item : β} (mem : item ∈ right) :
    ∃ partner ∈ left, related partner item :=
  exists_right_of_forall₂ (List.Forall₂.flip all) mem

section

variable {related : Container → Container → Prop}

namespace Supervisor

/-- A container is changed or left alone, so what holds between a container and itself and
between a container and its change holds all along the list. -/
theorem forall₂_modifyNamed? {name : String} {change : Container → Container}
    (refl : ∀ container, related container container)
    (changes : ∀ container, related container (change container))
    (done : modifyNamed? name change containers = some changed) :
    List.Forall₂ related containers changed := by
  induction containers generalizing changed with
  | nil => cases done
  | cons container rest ih =>
    rw [modifyNamed?] at done
    split at done
    · cases done
      exact .cons (changes container) (List.forall₂_same.mpr fun other _ => refl other)
    · obtain ⟨others, found, rfl⟩ := Option.map_eq_some_iff.mp done
      exact .cons (refl container) (ih found)

theorem forall₂_prepare {command : Command} {change : ExecBody → Container → Container}
    (refl : ∀ container, related container container)
    (changes : ∀ body container, related container (change body container))
    (done : prepare containers command change = .ok changed) :
    List.Forall₂ related containers changed := by
  unfold prepare at done
  split at done
  · cases done
    exact List.forall₂_same.mpr fun container _ => refl container
  · split at done
    · rename_i found
      cases done
      exact forall₂_modifyNamed? refl (changes _) found
    · cases done

end Supervisor

/-- What the run and debug commands do to containers, in terms of what either does to one. -/
theorem forall₂_wrapContainers (refl : ∀ container, related container container)
    (trans : ∀ first second third, related first second → related second third →
      related first third) {overrides : CommandOverrides} {port : Int}
    (run : ∀ body container, related container (container.hosting .run body))
    (debug : ∀ body container, related container (Supervisor.hostDebug port body container))
    (done : devfile.wrapContainers overrides port containers = .ok changed) :
    List.Forall₂ related containers changed := by
  obtain ⟨foundRun, -, done⟩ := Checked.bind_eq_ok_iff.mp done
  obtain ⟨foundDebug, -, done⟩ := Checked.bind_eq_ok_iff.mp done
  cases foundRun with
  | none =>
    cases done
    exact List.forall₂_same.mpr fun container _ => refl container
  | some _ =>
    obtain ⟨hosting, isHosting, done⟩ := Checked.bind_eq_ok_iff.mp done
    have hosted : List.Forall₂ related containers hosting :=
      Supervisor.forall₂_prepare refl run (Checked.mapError_eq_ok_iff.mp isHosting)
    cases foundDebug with
    | none =>
      cases done
      exact hosted
    | some _ =>
      have debugged : List.Forall₂ related hosting changed :=
        Supervisor.forall₂_prepare refl debug (Checked.mapError_eq_ok_iff.mp done)
      exact forall₂_comp trans hosted debugged

end

/-- Changes that keep each name keep the list of them. -/
theorem containerNames_eq_of_forall₂
    (same : List.Forall₂ (fun before after => after.name = before.name) containers changed) :
    containerNames changed = containerNames containers := by
  induction same with
  | nil => rfl
  | cons isSame _ ih => exact congrArg₂ List.cons isSame ih

theorem Supervisor.containerNames_prepare {command : Command}
    {change : ExecBody → Container → Container}
    (keeps : ∀ body container, (change body container).name = container.name)
    (done : prepare containers command change = .ok changed) :
    containerNames changed = containerNames containers :=
  containerNames_eq_of_forall₂ (forall₂_prepare (fun _ => rfl) keeps done)

/-- The supervisor comes into containers that go by the same names as before. -/
theorem containerNames_wrapContainers {overrides : CommandOverrides} {port : Int}
    (done : devfile.wrapContainers overrides port containers = .ok changed) :
    containerNames changed = containerNames containers := by
  refine containerNames_eq_of_forall₂ (forall₂_wrapContainers (fun _ => rfl)
    (fun _ _ _ before after => after.trans before) (by simp) (by simp) done)

/-- The mount of a volume; a volume that is to be mounted nowhere in particular is mounted under
its name. -/
def VolumeMountRef.mount (reference : VolumeMountRef) : VolumeMount :=
  ⟨reference.name, reference.path.getD ("/" ++ reference.name)⟩

/-- Volumes are mounted one after another, and nothing else changes. -/
theorem withVolumes_spec {references : List VolumeMountRef} {container result : Container}
    (done : devfile.withVolumes container references = .ok result) :
    result.name = container.name ∧ result.ports = container.ports ∧
      result.envVars = container.envVars ∧
      result.mounts = container.mounts ++ references.map VolumeMountRef.mount := by
  induction references generalizing container with
  | nil =>
    cases done
    simp
  | cons reference rest ih =>
    rw [Devfile.withVolumes] at done
    split at done
    · obtain ⟨name, ports, env, mounts⟩ := ih done
      simp [name, ports, env, mounts, VolumeMountRef.mount]
    · cases done

theorem withSources_name {body : ContainerBody} {container : Container} :
    (devfile.withSources body container).name = container.name := by
  unfold Devfile.withSources
  split
  · simp
  · rfl

/-- A container is called what its component is called. -/
theorem name_of_containerFor {name : String} {body : ContainerBody} {container : Container}
    (done : devfile.containerFor name body = .ok container) : container.name = name := by
  rw [(withVolumes_spec done).1, withSources_name]
  rfl

/-- The containers are called what the container components are called. -/
theorem containerNames_of_synthesizeContainers
    (done : devfile.synthesizeContainers = .ok containers) :
    containerNames containers = devfile.containers.map (·.1) :=
  Checked.map_eq_map_of_mapM_eq_ok done fun _ _ => name_of_containerFor

/-- There is a container for each container component, and no other. -/
theorem containerNames_of_render {params : PushParameters} {desired : DesiredComponent}
    (rendered : render devfile params = .ok desired) :
    containerNames desired.containers = devfile.containers.map (·.1) := by
  obtain ⟨synthesized, containers, preStart, stages⟩ := exists_stages_of_render rendered
  rw [stages.containers_eq, containerNames_wrapContainers stages.isWrapped]
  exact containerNames_of_synthesizeContainers stages.isSynthesized

/-! ### Containers of commands -/

/-- An exec command that passes its checks names a container of the devfile. -/
theorem component_mem_of_validateCommand {command : Command} {body : ExecBody}
    (valid : devfile.validateCommand command = .ok ()) (isExec : command.body = .exec body) :
    body.component ∈ devfile.containers.map (·.1) := by
  rw [Devfile.validateCommand, isExec] at valid
  exact (Devfile.validateExec_eq_ok_iff.mp valid).housed

/-- So do the parts of a command that passes its checks. -/
theorem component_mem_of_isLeaf {leaf : Command} (isLeaf : devfile.IsLeaf leaf) {body : ExecBody}
    (isExec : leaf.exec? = some body) : body.component ∈ devfile.containers.map (·.1) :=
  component_mem_of_validateCommand isLeaf.2 (Command.exec?_eq_some_iff.mp isExec)

end DevfilePush
