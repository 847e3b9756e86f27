import DevfilePush.Proofs.Command.Expansion
import DevfilePush.Proofs.Command.Selection
import DevfilePush.Proofs.Session
import DevfilePush.Proofs.Synthesis.Rendering
import DevfilePush.Push.Push

/-!
What running commands comes to.

Whatever a client does, all that commands do to it is to run programs. So an assertion
that every single program keeps, and a failure that every single program may end in, are
those of whole commands, provided that the commands can be expanded.
-/

namespace DevfilePush

open Session (Ensures Keeps)

variable {σ : Type} {client : ClusterClient σ} {inv : σ → Prop} {fail : Failure → σ → Prop}
  {devfile : Devfile} {pod shell : String}

/-- The command can be taken apart into exec commands. -/
def Devfile.Expandable (devfile : Devfile) (command : Command) : Prop :=
  ∃ leaves, devfile.flatten command = .ok leaves

section

variable (programs : ∀ pod container program,
  Keeps inv (client.execOrFail pod container program) fail)

include programs

theorem runLeaves_keeps (leaves : List Command) :
    Keeps inv (runLeaves client pod shell leaves) fail := by
  induction leaves with
  | nil => exact .pure fun _ holds => holds
  | cons leaf rest ih =>
    unfold runLeaves
    cases leaf.body with
    | composite body => exact ih
    | exec body =>
      refine (programs pod body.component (body.invocation shell)).bind fun lines => ?_
      refine Ensures.bind ih fun outputs => ?_
      exact .pure fun _ holds => holds

/-- Running a command that can be expanded keeps what running its leaves keeps: expansion is no way
to fail. -/
theorem executeCommand_keeps {command : Command} (expandable : devfile.Expandable command) :
    Keeps inv (executeCommand client devfile pod shell command) fail := by
  obtain ⟨leaves, isExpanded⟩ := expandable
  unfold executeCommand
  rw [isExpanded]
  exact runLeaves_keeps programs leaves

/-- Commands are run one after another. -/
theorem executeAll_keeps {commands : List Command}
    (expandable : ∀ command ∈ commands, devfile.Expandable command) :
    Keeps inv (executeAll client devfile pod shell commands) fail := by
  induction commands with
  | nil => exact .pure fun _ holds => holds
  | cons command rest ih =>
    have first : Keeps inv (executeCommand client devfile pod shell command) fail :=
      executeCommand_keeps programs (expandable command List.mem_cons_self)
    have others := ih fun other mem => expandable other (List.mem_cons_of_mem _ mem)
    refine Ensures.bind first fun outputs => ?_
    refine Ensures.bind others fun rest => ?_
    exact .pure fun _ holds => holds

/-- Starting a program only runs programs. -/
theorem startProgram_keeps (desired : DesiredComponent) (debug : Option Command) :
    Keeps inv (startProgram client desired pod debug) fail := by
  unfold startProgram
  dsimp only
  cases desired.supervisedContainer? (desired.program debug).2 with
  | none => exact .pure fun _ holds => holds
  | some container =>
    refine Ensures.bind ?_ fun _ => .pure fun _ holds => holds
    refine Ensures.bind (programs pod container _) fun _ => ?_
    refine Ensures.bind (programs pod container _) fun _ => ?_
    exact .pure fun _ holds => holds

end

/-! ### The commands of a plan -/

/-- What a plan has to do with the devfile and the parameters that it was made from. -/
structure Plans (devfile : Devfile) (params : PushParameters) (plan : PushPlan) : Prop where
  rendered : render devfile params = .ok plan.desired
  debug : if params.debug then
      devfile.resolveCommand .debug params.overrides.debug = .ok plan.debug
    else plan.debug = none
  postStart : devfile.expandEvent .postStart = .ok plan.postStart

/-- A plan that has been made holds what it says of itself. -/
theorem plans_of_pushPlan {params : PushParameters} {plan : PushPlan}
    (planned : devfile.pushPlan params = .ok plan) : Plans devfile params plan := by
  obtain ⟨desired, rendered, planned⟩ := Checked.bind_eq_ok_iff.mp planned
  dsimp only at planned
  split at planned
  · rename_i asked
    obtain ⟨debug, isDebug, planned⟩ := Checked.bind_eq_ok_iff.mp planned
    obtain ⟨postStart, expanded, planned⟩ := Checked.bind_eq_ok_iff.mp planned
    cases planned
    exact ⟨rendered, by simpa [asked] using Checked.mapError_eq_ok_iff.mp isDebug,
      Checked.mapError_eq_ok_iff.mp expanded⟩
  · rename_i notAsked
    obtain ⟨debug, isDebug, planned⟩ := Checked.bind_eq_ok_iff.mp planned
    obtain ⟨postStart, expanded, planned⟩ := Checked.bind_eq_ok_iff.mp planned
    cases planned
    cases isDebug
    exact ⟨rendered, by simp [notAsked], Checked.mapError_eq_ok_iff.mp expanded⟩

namespace Plans

variable {params : PushParameters} {plan : PushPlan} (plans : Plans devfile params plan)

include plans

theorem isRendered : plan.desired.IsRendered :=
  ⟨devfile, params, plans.rendered⟩

theorem resolved : devfile.resolvePushSet params.overrides = .ok plan.desired.commands :=
  (renders_of_render plans.rendered).commands

/-- Outside debug mode there is no debug command to start. -/
theorem debug_eq_none (notAsked : params.debug = false) : plan.debug = none := by
  have debug := plans.debug
  rw [notAsked] at debug
  exact debug

/-- In debug mode there is one, or rendering would have failed. -/
theorem exists_debug (asked : params.debug = true) :
    ∃ debug, plan.debug = some debug ∧
      devfile.resolveCommand .debug params.overrides.debug = .ok (some debug) := by
  obtain ⟨synthesized, containers, preStart, stages⟩ := exists_stages_of_render plans.rendered
  have required := stages.debug
  have debug := plans.debug
  rw [asked] at debug
  rw [Devfile.requireDebug, asked, if_pos rfl, debug] at required
  cases isDebug : plan.debug with
  | none =>
    rw [isDebug] at required
    cases required
  | some command => exact ⟨command, rfl, isDebug ▸ debug⟩

/-- The commands of a group have passed their checks, so they can be expanded. -/
theorem expandable_of_get? {kind : GroupKind} {command : Command}
    (chosen : plan.desired.commands.get? kind = some command) : devfile.Expandable command := by
  have valid := Devfile.validateCommand_of_get? plans.resolved chosen
  obtain ⟨leaves, isExpanded, -⟩ := Devfile.flatten_of_validateCommand valid
  exact ⟨leaves, isExpanded⟩

/-- All commands before the start of the program are commands of a group, which have passed their
checks. -/
theorem validateCommand_of_mem_before {action : ReconcileAction} {command : Command}
    (mem : command ∈ plan.before action) : devfile.validateCommand command = .ok () := by
  rcases List.mem_append.mp mem with isInit | isBuild
  · split at isInit
    · exact Devfile.validateCommand_of_get? plans.resolved (Option.mem_toList.mp isInit)
    · cases isInit
  · exact Devfile.validateCommand_of_get? plans.resolved (Option.mem_toList.mp isBuild)

/-- So all of them can be expanded. -/
theorem expandable_before {action : ReconcileAction} {command : Command}
    (mem : command ∈ plan.before action) : devfile.Expandable command := by
  obtain ⟨leaves, isExpanded, -⟩ :=
    Devfile.flatten_of_validateCommand (plans.validateCommand_of_mem_before mem)
  exact ⟨leaves, isExpanded⟩

/-- The commands of an event are exec commands, which stand for themselves. -/
theorem expandable_after {action : ReconcileAction} {command : Command}
    (mem : command ∈ plan.after action) : devfile.Expandable command := by
  unfold PushPlan.after at mem
  split at mem
  · obtain ⟨body, isExec⟩ := Devfile.exists_exec_of_expandEvent plans.postStart mem
    exact ⟨[command], Devfile.flatten_of_exec isExec⟩
  · cases mem

end Plans

end DevfilePush
