import DevfilePush.Proofs.Settings.Sources
import DevfilePush.Proofs.Synthesis.Hosting
import DevfilePush.Proofs.Synthesis.InitContainers
import DevfilePush.Proofs.Text.Decimal
import Mathlib.Data.List.Count

/-!
The port of the debugger.

The variables that the devfile declares for a container come first, and what rendering adds
follows them (`Appends`). So the variables that are left when the declared ones are taken out
(`undeclared`) are the added ones. An init container has no others than the container that it is
a copy of (`adds_iff`). The port of the debugger is among them if the container of the debug
command is without one, and is then the one that is asked for. The settings have been checked,
but a port that is asked for with a single push has not: it is written as it is
(`debugPorts_inRange_iff`).
-/

namespace DevfilePush

open Kubernetes (Container)

/-! ### Variables that are not declared -/

/-- The variables of a container that are left when those that the devfile declares for it are
taken out, one for one. -/
def Kubernetes.Container.undeclared (container : Container) (declared : List DevfilePush.EnvVar) :
    List EnvVar :=
  container.envVars.diff (declared.map DevfilePush.EnvVar.toKubernetes)

/-- Only variables that are allowed follow those there were. -/
def Appends (allowed : Kubernetes.EnvVar → Prop) (before after : List Kubernetes.EnvVar) : Prop :=
  ∃ added, after = before ++ added ∧ ∀ var ∈ added, allowed var

section

variable {container base init : Container} {declared extra : List EnvVar}
  {added : List Kubernetes.EnvVar} {var : Kubernetes.EnvVar}

theorem mem_undeclared_iff
    (vars : container.envVars = declared.map EnvVar.toKubernetes ++ added) :
    var ∈ container.undeclared declared ↔ var ∈ added := by
  rw [Container.undeclared, vars, ← List.count_pos_iff, List.count_diff, List.count_append,
    Nat.add_sub_cancel_left, List.count_pos_iff]

/-- Variables that are declared besides make no difference. -/
theorem mem_undeclared_append
    (vars : init.envVars = base.envVars ++ extra.map EnvVar.toKubernetes) :
    var ∈ init.undeclared (declared ++ extra) ↔ var ∈ base.undeclared declared := by
  rw [Container.undeclared, Container.undeclared, vars, List.map_append, ← List.count_pos_iff,
    ← List.count_pos_iff, List.count_diff, List.count_diff, List.count_append, List.count_append,
    Nat.add_sub_add_right]

end

namespace Appends

variable {allowed permitted : Kubernetes.EnvVar → Prop}
  {first second third : List Kubernetes.EnvVar} {container : Container}
  {vars : List (String × String)} {name value : String}

theorem refl (vars : List Kubernetes.EnvVar) : Appends allowed vars vars :=
  ⟨[], (List.append_nil vars).symm, List.forall_mem_nil _⟩

theorem trans (one : Appends allowed first second) (two : Appends allowed second third) :
    Appends allowed first third := by
  obtain ⟨added, rfl, allAllowed⟩ := one
  obtain ⟨more, rfl, moreAllowed⟩ := two
  refine ⟨added ++ more, List.append_assoc .., fun var mem => ?_⟩
  rcases List.mem_append.mp mem with mem | mem
  · exact allAllowed var mem
  · exact moreAllowed var mem

theorem mono (appends : Appends allowed first second)
    (more : ∀ var, allowed var → permitted var) : Appends permitted first second := by
  obtain ⟨added, isSecond, allAllowed⟩ := appends
  exact ⟨added, isSecond, fun var mem => more var (allAllowed var mem)⟩

theorem of_mem_undeclared {declared : List EnvVar}
    (appends : Appends allowed (declared.map EnvVar.toKubernetes) container.envVars)
    {var : Kubernetes.EnvVar} (mem : var ∈ container.undeclared declared) : allowed var := by
  obtain ⟨added, vars, allAllowed⟩ := appends
  exact allAllowed var ((mem_undeclared_iff vars).mp mem)

theorem addEnvIfAbsent (isAllowed : allowed ⟨name, some value⟩) :
    Appends allowed container.envVars (container.addEnvIfAbsent name value).envVars := by
  unfold Container.addEnvIfAbsent
  split
  · exact refl _
  · exact ⟨[⟨name, some value⟩], rfl, List.forall_mem_singleton.mpr isAllowed⟩

theorem wrapped : Appends allowed container.envVars container.wrapped.envVars := by
  unfold Container.wrapped
  dsimp only
  split <;> exact refl _

theorem equipped (allAllowed : ∀ var ∈ vars, allowed ⟨var.1, some var.2⟩) :
    Appends allowed container.envVars (container.equipped vars).envVars :=
  List.foldlRecOn (motive := fun changed : Container =>
    Appends allowed container.envVars changed.envVars) vars _ wrapped
    fun _ before var mem => before.trans (addEnvIfAbsent (allAllowed var mem))

end Appends

/-! ### Who adds the port -/

/-- A variable is the port of the debugger only if it holds `port`. -/
def HoldsPort (port : Int) (var : Kubernetes.EnvVar) : Prop :=
  var.name = Supervisor.debugPortVar → var.value = some (toString port)

/-- A variable is not the port of the debugger. -/
def NoPort (var : Kubernetes.EnvVar) : Prop :=
  var.name ≠ Supervisor.debugPortVar

theorem NoPort.holdsPort {port : Int} {var : Kubernetes.EnvVar} (noPort : NoPort var) :
    HoldsPort port var :=
  fun isPort => absurd isPort noPort

namespace Supervisor.Program

variable {port : Int} {body : ExecBody} {container : Container}

theorem commandVar_ne (program : Program) : program.commandVar ≠ debugPortVar := by
  cases program <;> decide

theorem workingDirVar_ne (program : Program) : program.workingDirVar ≠ debugPortVar := by
  cases program <;> decide

/-- The debug command alone has the port among its variables. -/
theorem ne_or_eq_of_mem_vars {program : Program} {var : String × String}
    (mem : var ∈ program.vars port body) :
    var.1 ≠ debugPortVar ∨ program = debug ∧ var = (debugPortVar, toString port) := by
  simp only [vars, List.cons_append, List.mem_cons, List.mem_append, List.mem_map] at mem
  rcases mem with rfl | ⟨dir, -, rfl⟩ | mem
  · exact .inl (commandVar_ne program)
  · exact .inl (workingDirVar_ne program)
  · split at mem
    · rename_i isDebug
      exact .inr ⟨isDebug, List.mem_singleton.mp mem⟩
    · cases mem

/-- Hosting a program adds no other port than the one that is asked for. -/
theorem appends_host (program : Program) :
    Appends (HoldsPort port) container.envVars (program.host port body container).envVars :=
  host_eq_equipped program port ▸ .equipped fun _ mem isPort =>
    (ne_or_eq_of_mem_vars mem).elim (absurd isPort) fun ⟨_, same⟩ => same ▸ rfl

/-- The run command has none. -/
theorem appends_hosting :
    Appends NoPort container.envVars (container.hosting .run body).envVars := by
  have asEquipped : container.hosting .run body = container.equipped (run.vars 0 body) :=
    host_eq_equipped run 0
  rw [asEquipped]
  exact .equipped fun _ mem => (ne_or_eq_of_mem_vars mem).elim id nofun

end Supervisor.Program

/-! ### Containers and their components -/

/-- Lists with the same names have what is found under a name at the same place. -/
theorem exists_mem_zip_of_find? {α β : Type} {nameOf : α → String} {calledOf : β → String}
    {left : List α} {right : List β} (same : right.map calledOf = left.map nameOf)
    {name : String} {item : β}
    (found : (right.find? fun item => calledOf item = name) = some item) :
    ∃ partner, (left.find? fun item => nameOf item = name) = some partner ∧
      (partner, item) ∈ left.zip right := by
  induction left generalizing right with
  | nil =>
    rw [List.map_nil, List.map_eq_nil_iff] at same
    rw [same] at found
    cases found
  | cons first rest ih =>
    obtain ⟨first', rest', rfl, isFirst, same⟩ := List.map_eq_cons_iff.mp same
    by_cases isNamed : nameOf first = name
    · rw [List.find?_cons_of_pos (by simpa using isFirst.trans isNamed)] at found
      cases found
      exact ⟨first, List.find?_cons_of_pos (by simpa using isNamed), List.mem_cons_self⟩
    · have notNamed : ¬ calledOf first' = name := isFirst ▸ isNamed
      rw [List.find?_cons_of_neg (by simpa using notNamed)] at found
      obtain ⟨partner, isPartner, mem⟩ := ih same found
      refine ⟨partner, ?_, List.mem_cons_of_mem _ mem⟩
      rwa [List.find?_cons_of_neg (by simpa using isNamed)]

/-- Between items at the same place there is one to which both are related. -/
theorem exists_between_of_mem_zip {α β γ : Type} {before : α → β → Prop} {after : β → γ → Prop}
    {first : List α} {second : List β} {third : List γ} (one : List.Forall₂ before first second)
    (two : List.Forall₂ after second third) {left : α} {right : γ}
    (mem : (left, right) ∈ first.zip third) :
    ∃ (index : Nat) (middle : β), first[index]? = some left ∧ second[index]? = some middle ∧
      third[index]? = some right ∧ before left middle ∧ after middle right := by
  induction one generalizing third with
  | nil => cases mem
  | cons isBefore _ ih =>
    cases two with
    | cons isAfter others =>
      rcases List.mem_cons.mp mem with same | mem
      · cases same
        exact ⟨0, _, rfl, rfl, rfl, isBefore, isAfter⟩
      · obtain ⟨index, middle, isLeft, isMiddle, isRight, related⟩ := ih others mem
        exact ⟨index + 1, middle, isLeft, isMiddle, isRight, related⟩

/-- What stands at the first place of a name is what is found under it. -/
theorem find?_of_idxOf? {α : Type} {nameOf : α → String} {items : List α} {name : String}
    {index : Nat} {item : α} (isFirst : (items.map nameOf).idxOf? name = some index)
    (isItem : items[index]? = some item) :
    (items.find? fun item => nameOf item = name) = some item := by
  obtain ⟨inBounds, isNamed, others⟩ := List.idxOf?_eq_some_iff.mp isFirst
  rw [List.length_map] at inBounds
  rw [List.getElem?_eq_getElem inBounds, Option.some.injEq] at isItem
  refine List.find?_eq_some_iff_getElem.mpr ⟨?_, index, inBounds, isItem, fun other before => ?_⟩
  · simpa [isItem] using isNamed
  · simpa using others other before

variable {devfile : Devfile} {overrides : CommandOverrides} {params : PushParameters}
  {desired : DesiredComponent} {containers changed : List Container} {var : Kubernetes.EnvVar}

/-- A container starts with the variables that its component declares. -/
theorem appends_of_synthesizeContainers
    (done : devfile.synthesizeContainers = .ok containers) :
    List.Forall₂ (fun component container =>
      Appends NoPort (component.2.env.map EnvVar.toKubernetes) container.envVars)
      devfile.containers containers := by
  refine (Checked.forall₂_of_mapM_eq_ok done).imp fun component container made => ?_
  obtain ⟨name, body⟩ := component
  have isBase : (body.base name).envVars = body.env.map EnvVar.toKubernetes :=
    getD_nonEmpty? _
  obtain ⟨-, -, mounted, -⟩ := withVolumes_spec made
  rw [mounted, ← isBase]
  unfold Devfile.withSources
  split
  · have isRoot : projectsRootVar ≠ Supervisor.debugPortVar := by decide
    have isSource : projectSourceVar ≠ Supervisor.debugPortVar := by decide
    rw [← Container.addMount_envVars]
    exact Appends.trans (.addEnvIfAbsent isRoot) (.addEnvIfAbsent isSource)
  · exact .refl _

/-- A container to which the port is added is that of the debug command. -/
theorem exists_debug_of_wrapContainers {run : Command} {port : Int} {index : Nat}
    {before after : Container} (isRun : devfile.findCommand .run overrides.run = .ok (some run))
    (done : devfile.wrapContainers overrides port containers = .ok changed)
    (isBefore : containers[index]? = some before) (isAfter : changed[index]? = some after)
    (ported : ¬ Appends NoPort before.envVars after.envVars) :
    ∃ command body, devfile.findCommand .debug overrides.debug = .ok (some command) ∧
      command.body = .exec body ∧
      (containerNames containers).idxOf? body.component = some index := by
  obtain ⟨debug, hosting, isDebug, prepared, others⟩ :=
    exists_prepared_of_wrapContainers isRun done
  have hosted : List.Forall₂ (fun before after : Container =>
      Appends NoPort before.envVars after.envVars) containers hosting :=
    Supervisor.forall₂_prepare (fun _ => .refl _)
      (fun _ _ => Supervisor.Program.appends_hosting) prepared
  -- The run command alone does not add the port.
  have moved : hosting[index]? ≠ some after := by
    intro same
    have mem : (before, after) ∈ containers.zip hosting :=
      List.mem_of_getElem? (List.getElem?_zip_eq_some.mpr ⟨isBefore, same⟩)
    exact ported ((List.forall₂_iff_zip.mp hosted).2 mem)
  cases debug with
  | none => exact absurd (others ▸ isAfter) moved
  | some command =>
    by_contra none
    have elsewhere : ∀ body, command.body = .exec body →
        (containerNames hosting).idxOf? body.component ≠ some index := by
      rw [Supervisor.containerNames_prepare (by simp) prepared]
      exact fun body isExec found => none ⟨command, body, isDebug, isExec, found⟩
    exact moved ((Supervisor.getElem?_prepare elsewhere others).symm.trans isAfter)

/-! ### The port in what is rendered -/

/-- The variables that the devfile declares for an init container: those of the component that
its command belongs to, and those of the command. -/
def Devfile.declaredFor (devfile : Devfile) (body : ExecBody) : List EnvVar :=
  ((devfile.containers.find? fun component => component.1 = body.component).map
    (·.2.env)).getD [] ++ body.env

/-- A variable that is in a container of the pod without having been declared for it. -/
inductive Devfile.Adds (devfile : Devfile) (desired : DesiredComponent)
    (var : Kubernetes.EnvVar) : Prop where
  | toContainer {component : String × ContainerBody} {container : Container}
      (mem : (component, container) ∈ devfile.containers.zip desired.containers)
      (own : var ∈ container.undeclared component.2.env)
  /-- The first init container brings the supervisor, and nothing is declared for it. -/
  | toBootstrap {init : Container} (isFirst : desired.initContainers.head? = some init)
      (own : var ∈ init.undeclared [])
  | toInitContainer {commands : List Command} {command : Command} {body : ExecBody}
      {init : Container} (expanded : devfile.expandEvent .preStart = .ok commands)
      (mem : (command, init) ∈ commands.zip desired.initContainers.tail)
      (isExec : command.body = .exec body) (own : var ∈ init.undeclared (devfile.declaredFor body))

/-- The debug command belongs to a container for which the devfile does not declare the port. -/
def Devfile.LacksDebugPort (devfile : Devfile) (overrides : CommandOverrides) : Prop :=
  ∃ command body component, devfile.findCommand .debug overrides.debug = .ok (some command) ∧
    command.body = .exec body ∧
    (devfile.containers.find? fun component => component.1 = body.component) = some component ∧
    Supervisor.debugPortVar ∉ component.2.env.map (·.name)

section

variable (rendered : render devfile params = .ok desired)

include rendered

/-- What is added to an init container has been added to the container that it is a copy of. -/
theorem adds_iff : devfile.Adds desired var ↔ ∃ component container,
    (component, container) ∈ devfile.containers.zip desired.containers ∧
      var ∈ container.undeclared component.2.env := by
  obtain ⟨synthesized, containers, preStart, stages⟩ := exists_stages_of_render rendered
  have inits : desired.initContainers =
      Supervisor.bootstrapContainer params.settings.bootstrapImage :: preStart := by
    rw [stages.initContainers_eq, stages.any_isWrapped]
    rfl
  constructor
  · rintro (⟨mem, own⟩ | ⟨isFirst, own⟩ | ⟨expanded, mem, isExec, own⟩)
    · exact ⟨_, _, mem, own⟩
    · rw [inits] at isFirst
      cases isFirst
      cases own
    · rename_i commands command body init
      obtain ⟨commands', expanded', built⟩ := Checked.bind_eq_ok_iff.mp stages.isPreStart
      cases expanded.symm.trans expanded'
      rw [inits] at mem
      obtain ⟨body', base, isExec', isBase, runs⟩ :=
        (List.forall₂_iff_zip.mp (PreStart.forall₂_of_build built)).2 mem
      cases isExec.symm.trans isExec'
      have names := containerNames_of_render rendered
      rw [stages.containers_eq] at names ⊢
      obtain ⟨component, isComponent, mem⟩ := exists_mem_zip_of_find? names isBase
      refine ⟨component, base, mem, ?_⟩
      rw [Devfile.declaredFor, isComponent] at own
      exact (mem_undeclared_append runs.vars).mp own
  · rintro ⟨component, container, mem, own⟩
    exact .toContainer mem own

/-- A container starts with the variables that its component declares, and the port that follows
them is the one that is asked for. -/
theorem appends_of_render : List.Forall₂ (fun component container =>
      Appends (HoldsPort params.effectiveDebugPort) (component.2.env.map EnvVar.toKubernetes)
        container.envVars)
      devfile.containers desired.containers := by
  obtain ⟨synthesized, containers, preStart, stages⟩ := exists_stages_of_render rendered
  have hosted : List.Forall₂ (fun before after : Container =>
      Appends (HoldsPort params.effectiveDebugPort) before.envVars after.envVars)
      synthesized containers :=
    forall₂_wrapContainers (fun _ => .refl _) (fun _ _ _ => .trans)
      (fun _ _ => Supervisor.Program.appends_host .run)
      (fun _ _ => Supervisor.Program.appends_host .debug) stages.isWrapped
  rw [stages.containers_eq]
  exact forall₂_comp
    (fun _ _ _ declared added => (declared.mono fun _ => NoPort.holdsPort).trans added)
    (appends_of_synthesizeContainers stages.isSynthesized) hosted

theorem holdsPort_of_adds (adds : devfile.Adds desired var) :
    HoldsPort params.effectiveDebugPort var := by
  obtain ⟨component, container, mem, own⟩ := (adds_iff rendered).mp adds
  exact ((List.forall₂_iff_zip.mp (appends_of_render rendered)).2 mem).of_mem_undeclared own

/-- A container to which the port is added is that of the debug command, and lacks it. -/
theorem lacksDebugPort_of_adds (adds : devfile.Adds desired var)
    (isPort : var.name = Supervisor.debugPortVar) : devfile.LacksDebugPort params.overrides := by
  obtain ⟨component, after, mem, own⟩ := (adds_iff rendered).mp adds
  obtain ⟨synthesized, containers, preStart, stages⟩ := exists_stages_of_render rendered
  obtain ⟨run, -, isRun⟩ := Devfile.exists_run_of_resolvePushSet stages.commands
  rw [stages.containers_eq] at mem
  obtain ⟨index, before, isComponent, isBefore, isAfter, declared, hosts⟩ :=
    exists_between_of_mem_zip (appends_of_synthesizeContainers stages.isSynthesized)
      (extends_of_wrapContainers stages.isWrapped) mem
  have ported : ¬ Appends NoPort before.envVars after.envVars :=
    fun appends => (declared.trans appends).of_mem_undeclared own isPort
  obtain ⟨command, body, isDebug, isExec, isFirst⟩ :=
    exists_debug_of_wrapContainers isRun stages.isWrapped isBefore isAfter ported
  rw [containerNames_of_synthesizeContainers stages.isSynthesized] at isFirst
  refine ⟨command, body, component, isDebug, isExec, find?_of_idxOf? isFirst isComponent, ?_⟩
  obtain ⟨sources, isBeforeVars, noPort⟩ := declared
  obtain ⟨added, isAfterVars, -, absent⟩ := hosts.env
  rw [isBeforeVars, List.append_assoc] at isAfterVars
  rcases List.mem_append.mp ((mem_undeclared_iff isAfterVars).mp own) with isSource | isAdded
  · exact absurd isPort (noPort var isSource)
  · intro isDeclared
    refine (absent var isAdded).2 ?_
    rw [isPort, isBeforeVars, List.map_append, List.map_map]
    exact List.mem_append_left _ isDeclared

theorem exists_adds_of_lacksDebugPort (lacks : devfile.LacksDebugPort params.overrides) :
    ∃ var, devfile.Adds desired var ∧ var.name = Supervisor.debugPortVar := by
  obtain ⟨command, body, component, isDebug, isExec, isComponent, absent⟩ := lacks
  obtain ⟨synthesized, containers, preStart, stages⟩ := exists_stages_of_render rendered
  obtain ⟨run, -, isRun⟩ := Devfile.exists_run_of_resolvePushSet stages.commands
  have debugs : devfile.programCommand params.overrides .debug = .ok (some command) := isDebug
  obtain ⟨container, isFirst, ready⟩ :=
    ready_of_wrapContainers isRun stages.isWrapped debugs isExec
  have names := containerNames_of_render rendered
  rw [stages.containers_eq] at names
  obtain ⟨component', isComponent', mem⟩ := exists_mem_zip_of_find? names isFirst
  cases isComponent.symm.trans isComponent'
  rw [← stages.containers_eq] at mem
  have has : container.hasEnv Supervisor.debugPortVar = true := ready.vars
    (Supervisor.debugPortVar, toString params.effectiveDebugPort)
    (List.mem_append_right _ (List.mem_singleton.mpr rfl))
  obtain ⟨var, isVar, isPort⟩ := List.mem_map.mp (Container.hasEnv_eq_true_iff.mp has)
  obtain ⟨added, vars, -⟩ := (List.forall₂_iff_zip.mp (appends_of_render rendered)).2 mem
  rw [vars] at isVar
  rcases List.mem_append.mp isVar with isDeclared | isAdded
  · obtain ⟨own, isOwn, rfl⟩ := List.mem_map.mp isDeclared
    exact absurd (List.mem_map.mpr ⟨own, isOwn, isPort⟩) absent
  · exact ⟨var, .toContainer mem ((mem_undeclared_iff vars).mpr isAdded), isPort⟩

end

/-- Where the debug command's container has no port of its own it gets the one that is asked for,
and no container gets another one. So with settings that have been checked the ports that are
added are in range exactly if the one that is asked for with the push is, if it is used at all. -/
theorem debugPorts_inRange_iff (valid : params.settings.validate = .ok ())
    (rendered : render devfile params = .ok desired) :
    ((∃ var, devfile.Adds desired var ∧ var.name = Supervisor.debugPortVar) ↔
      devfile.LacksDebugPort params.overrides) ∧
    (∀ var, devfile.Adds desired var → var.name = Supervisor.debugPortVar →
      var.value = some (toString params.effectiveDebugPort)) ∧
    ((∀ var, devfile.Adds desired var → var.name = Supervisor.debugPortVar →
      ∃ port : Int, 1 ≤ port ∧ port ≤ 65535 ∧ var.value = some (toString port)) ↔
      (devfile.LacksDebugPort params.overrides → ∀ port, params.debugPort = some port →
        1 ≤ port ∧ port ≤ 65535)) := by
  refine ⟨⟨fun ⟨_, adds, isPort⟩ => lacksDebugPort_of_adds rendered adds isPort,
    exists_adds_of_lacksDebugPort rendered⟩, fun _ => holdsPort_of_adds rendered, ?_, ?_⟩
  · intro inRange lacks port isAsked
    obtain ⟨var, adds, isPort⟩ := exists_adds_of_lacksDebugPort rendered lacks
    obtain ⟨held, above, below, isHeld⟩ := inRange var adds isPort
    have same : toString held = toString port := by
      have isAdded := holdsPort_of_adds rendered adds isPort
      rw [PushParameters.effectiveDebugPort, isAsked, isHeld] at isAdded
      exact Option.some.inj isAdded
    cases Text.toString_int_injective same
    exact ⟨above, below⟩
  · intro inRange var adds isPort
    refine ⟨params.effectiveDebugPort, ?_⟩
    rw [← and_assoc]
    refine ⟨?_, holdsPort_of_adds rendered adds isPort⟩
    unfold PushParameters.effectiveDebugPort
    cases isAsked : params.debugPort with
    | none => exact (PushSettings.validate_eq_ok_iff.mp valid).debugPort
    | some port => exact inRange (lacksDebugPort_of_adds rendered adds isPort) port isAsked

theorem lacksDebugPort_inspected : Devfile.inspected.LacksDebugPort {} :=
  ⟨_, _, ("main", { image := "alpine" }), rfl, rfl, rfl, by decide⟩

theorem debugPorts_inRange_inspected : ∃ desired,
    ({} : PushSettings).validate = .ok () ∧
      render .inspected { debugPort := some 9229 } = .ok desired ∧
      (∃ var, Devfile.inspected.Adds desired var ∧ var.name = "ODO_DEBUG_PORT") ∧
      ∀ var, Devfile.inspected.Adds desired var → var.name = "ODO_DEBUG_PORT" →
        ∃ port : Int, 1 ≤ port ∧ port ≤ 65535 ∧ var.value = some (toString port) := by
  have renders : (render .inspected { debugPort := some 9229 }).toOption.any
      (fun _ => true) = true := by decide +kernel
  obtain ⟨desired, rendered, -⟩ := Checked.exists_of_any_toOption renders
  obtain ⟨adds, -, inRange⟩ := debugPorts_inRange_iff rfl rendered
  refine ⟨desired, rfl, rendered, adds.mpr lacksDebugPort_inspected, inRange.mpr ?_⟩
  rintro - port isAsked
  cases isAsked
  decide

/-- There is no such port as the one that is asked for, but the debugger is told to use it. -/
theorem not_inRange_of_asked : ∃ desired var,
    ({} : PushSettings).validate = .ok () ∧
      render .inspected { debugPort := some 70000 } = .ok desired ∧
      Devfile.inspected.Adds desired var ∧ var.name = "ODO_DEBUG_PORT" ∧
      var.value = some "70000" ∧
      ¬ ∃ port : Int, 1 ≤ port ∧ port ≤ 65535 ∧ var.value = some (toString port) := by
  have renders : (render .inspected { debugPort := some 70000 }).toOption.any
      (fun _ => true) = true := by decide +kernel
  obtain ⟨desired, rendered, -⟩ := Checked.exists_of_any_toOption renders
  obtain ⟨var, adds, isPort⟩ := exists_adds_of_lacksDebugPort rendered lacksDebugPort_inspected
  have isAsked : var.value = some (toString (70000 : Int)) := holdsPort_of_adds rendered adds isPort
  refine ⟨desired, var, rfl, rendered, adds, isPort, isAsked, ?_⟩
  rintro ⟨port, -, below, isPort⟩
  cases Text.toString_int_injective (Option.some.inj (isPort.symm.trans isAsked))
  exact absurd below (by decide)

end DevfilePush
