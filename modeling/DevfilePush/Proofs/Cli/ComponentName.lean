import DevfilePush.Cli.Run
import DevfilePush.Cluster.InMemory
import DevfilePush.Proofs.Naming.Label
import DevfilePush.Proofs.Push.Execution
import DevfilePush.Push.Push

/-!
The name of a component, from one call to the next.

Rendering and deleting arrive at the name of a component's objects each on its own, from the name
that is asked for or else from the devfile. They arrive at the same one. A name that a push has
reported stands for itself, so to ask for it changes nothing (`targetName_spec`).
-/

namespace DevfilePush

variable {devfile : Devfile} {params : PushParameters} {desired : DesiredComponent}

/-- The parameters, with a name for the component. -/
def PushParameters.named (params : PushParameters) (name : String) : PushParameters :=
  { params with componentName := some name }

/-- The objects of the component are found under the name, and its pods by the labels that go
with it. -/
structure DesiredComponent.Bears (desired : DesiredComponent) (name : String) : Prop where
  deployment : desired.deployment.metadata = .named name (componentLabels name)
  pods : desired.deployment.templateLabels = componentLabels name
  service : ∀ service, desired.service = some service →
    service.metadata = .named name (componentLabels name)

theorem DesiredComponent.IsRendered.bears (rendered : desired.IsRendered) :
    desired.Bears desired.name where
  deployment := rendered.deployment_metadata
  pods := rendered.templateLabels_eq
  service service isService := by
    obtain ⟨ports, same⟩ := rendered.service_eq isService
    rw [same]

/-- To ask for the name that a component has anyway changes nothing. -/
theorem componentName_named : componentName devfile (params.named (componentName devfile params)) =
    componentName devfile params := by
  unfold PushParameters.named componentName
  rw [Option.getD_some, Naming.normalize_normalize]

theorem render_named :
    render devfile (params.named (componentName devfile params)) = render devfile params := by
  unfold render
  rw [componentName_named]
  rfl

theorem pushPlan_named : devfile.pushPlan (params.named (componentName devfile params)) =
    devfile.pushPlan params := by
  unfold Devfile.pushPlan
  rw [render_named]
  rfl

theorem push_named {σ : Type} (client : ClusterClient σ) (timeout : Duration) :
    push client timeout devfile (params.named (componentName devfile params)) =
      push client timeout devfile params := by
  unfold push
  rw [pushPlan_named]
  rfl

open Session (Ensures)

/-- A push reports the name that it has pushed under. -/
theorem run_reports {σ : Type} {client : ClusterClient σ} {timeout : Duration} {plan : PushPlan}
    {shell : String} :
    Ensures (fun _ => True) (plan.run client timeout devfile shell)
      (fun outcome _ => outcome.component = plan.desired.name) fun _ _ => True := by
  refine (Session.ensures_trivial _).bind fun outcome => ?_
  refine (Session.ensures_trivial _).bind fun before => ?_
  refine (Session.ensures_trivial _).bind fun started => ?_
  exact (Session.ensures_trivial _).bind fun after => .pure fun _ _ => rfl

theorem component_of_push {σ : Type} {client : ClusterClient σ} {timeout : Duration} {s t : σ}
    {outcome : PushOutcome}
    (done : push client timeout devfile params s = (.ok outcome, t)) :
    outcome.component = componentName devfile params := by
  unfold push at done
  cases planned : devfile.pushPlan params with
  | error failure =>
    rw [planned] at done
    cases done
  | ok plan =>
    rw [planned] at done
    rw [run_reports.ok trivial done]
    exact (renders_of_render (plans_of_pushPlan planned).rendered).name

namespace Cli

variable {find : String → FileContent} {environment : Environment} {invocation : Invocation}
  {component : ComponentChoice}

/-- What is to be deleted is called what a rendering from the same devfile is called. -/
theorem targetName_eq (isDevfile : readDevfile find invocation.devfile = .ok devfile) :
    targetName find invocation params.componentName = .ok (componentName devfile params) := by
  unfold componentName
  cases params.componentName with
  | none =>
    unfold targetName
    rw [isDevfile]
    rfl
  | some name => rfl

/-- Rendering with the name that a rendering has come to describes the same state again. -/
theorem renderComponent_named
    (rendered : renderComponent find environment invocation component = .ok desired) :
    renderComponent find environment invocation { component with name := some desired.name } =
      .ok desired := by
  obtain ⟨⟨devfile, settings⟩, loaded, rendered⟩ := Checked.bind_eq_ok_iff.mp rendered
  refine Checked.bind_eq_ok_iff.mpr ⟨⟨devfile, settings⟩, loaded, ?_⟩
  have isName := (renders_of_render rendered).name
  rw [← rendered, isName]
  exact render_named

/-- What is to be deleted is called what is rendered from the same devfile for the same name, and
its objects bear that name. A name made for objects stands for itself. So a name that a push has
reported leads to the same objects when it is asked for: they are what is deleted, what is
rendered, from whichever devfile, and what is pushed. -/
theorem targetName_spec (isDevfile : readDevfile find invocation.devfile = .ok devfile) :
    (∀ params desired, render devfile params = .ok desired →
      targetName find invocation params.componentName = .ok desired.name ∧
        desired.Bears desired.name) ∧
    (∀ name, Naming.normalize (Naming.normalize name) = Naming.normalize name) ∧
    (∀ {σ : Type} (client : ClusterClient σ) (timeout : Duration) (params : PushParameters)
        (s t : σ) outcome,
      push client timeout devfile params s = (.ok outcome, t) →
      targetName find invocation (some outcome.component) = .ok outcome.component ∧
        targetName find invocation params.componentName = .ok outcome.component ∧
        render devfile (params.named outcome.component) = render devfile params ∧
        push client timeout devfile (params.named outcome.component) =
          push client timeout devfile params ∧
        ∀ devfile (params : PushParameters) desired,
          render devfile (params.named outcome.component) = .ok desired →
            desired.Bears outcome.component) ∧
    ∀ environment component desired,
      renderComponent find environment invocation component = .ok desired →
        renderComponent find environment invocation
          { component with name := some desired.name } = .ok desired := by
  refine ⟨fun params desired rendered => ?_, Naming.normalize_normalize, ?_,
    fun environment component desired => renderComponent_named⟩
  · rw [targetName_eq isDevfile, (renders_of_render rendered).name]
    exact ⟨rfl, (renders_of_render rendered).name ▸
      DesiredComponent.IsRendered.bears ⟨_, _, rendered⟩⟩
  · intro σ client timeout params s t outcome done
    have isName := component_of_push done
    have stands : Naming.normalize outcome.component = outcome.component := by
      rw [isName, componentName, Naming.normalize_normalize]
    refine ⟨congrArg Except.ok stands, ?_, ?_, ?_, fun devfile' params' desired rendered => ?_⟩
    · rw [targetName_eq isDevfile, isName]
    · rw [isName, render_named]
    · rw [isName, push_named]
    · have same : desired.name = outcome.component :=
        (renders_of_render rendered).name.trans stands
      exact same ▸ DesiredComponent.IsRendered.bears ⟨_, _, rendered⟩

/-- A file with a component that can be run. -/
def runnable : FileTree :=
  [("devfile.yaml", .text ("components:\n- name: web\n  container:\n    image: ubi\n" ++
    "commands:\n- id: run\n  exec:\n    component: web\n    commandLine: run\n" ++
    "    group:\n      kind: run\n"))]

/-- What is read from it. -/
def runnableDevfile : Devfile :=
  { components := [⟨"web", .container { image := "ubi" }⟩]
    commands := [⟨"run", .exec
      { component := "web", commandLine := "run", group := some ⟨.run, false⟩ }⟩] }

/-- A component that is pushed under a name with a capital letter is deleted under this name as
well as under the one that the push reports. -/
theorem targetName_runnable :
    let invocation : Invocation := ⟨"devfile.yaml", none, none, .delete (some "Web")⟩
    ∃ outcome after,
      readDevfile runnable.find invocation.devfile = .ok runnableDevfile ∧
      push MemoryCluster.client ⟨0⟩ runnableDevfile { componentName := some "Web" }
        (.empty (some Kubernetes.Pod.runningPhase)) = (.ok outcome, after) ∧
      targetName runnable.find invocation (some "Web") = .ok outcome.component ∧
      targetName runnable.find invocation (some outcome.component) = .ok outcome.component := by
  intro invocation
  have isDevfile : readDevfile runnable.find invocation.devfile = .ok runnableDevfile := by
    decide +kernel
  have pushes : (push MemoryCluster.client ⟨0⟩ runnableDevfile { componentName := some "Web" }
      (.empty (some Kubernetes.Pod.runningPhase))).1.toOption.any (fun _ => true) = true := by
    decide +kernel
  obtain ⟨outcome, isOutcome, -⟩ := Checked.exists_of_any_toOption pushes
  obtain ⟨after, done⟩ : ∃ after, push MemoryCluster.client ⟨0⟩ runnableDevfile
      { componentName := some "Web" } (.empty (some Kubernetes.Pod.runningPhase)) =
        (.ok outcome, after) := ⟨_, Prod.ext isOutcome rfl⟩
  obtain ⟨stands, same, -⟩ := (targetName_spec isDevfile).2.2.1 _ _ _ _ _ _ done
  exact ⟨outcome, after, isDevfile, done, same, stands⟩

end Cli

end DevfilePush
