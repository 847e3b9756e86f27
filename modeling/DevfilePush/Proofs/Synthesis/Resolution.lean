import DevfilePush.Proofs.Synthesis.Acceptance

/-!
What a successful resolution promises for a rendering.

A devfile whose commands have been resolved on request renders without a complaint about its
commands, with one exception. A resolution looks at the debug group only in debug mode, but a
rendering always does, since the container of the debug command is to run the supervisor
from the start. So without debug mode a debug command that cannot be chosen passes the
resolution and fails the rendering (`render_command_error_iff`).
-/

namespace DevfilePush

variable {devfile : Devfile} {params : PushParameters} {overrides : CommandOverrides}
  {resolution : Resolution}

/-! ### Resolutions -/

/-- A resolution holds the commands of a push and, in debug mode, what the debug group is
resolved to. -/
theorem resolution_spec {debug test : Bool}
    (done : devfile.resolution overrides debug test = .ok resolution) :
    devfile.resolvePushSet overrides = .ok resolution.commands ∧
      (debug = true → devfile.resolveCommand .debug overrides.debug = .ok resolution.debug) := by
  rw [Devfile.resolution_of_inOrder (Devfile.inOrder_of_resolution done)] at done
  obtain ⟨commands, resolved, done⟩ := Checked.bind_eq_ok_iff.mp done
  obtain ⟨debugCommand, isDebug, done⟩ := Checked.bind_eq_ok_iff.mp done
  obtain ⟨testCommand, -, done⟩ := Checked.bind_eq_ok_iff.mp done
  cases done
  exact ⟨resolved, Devfile.onDemand_eq_ok isDebug⟩

theorem findCommand_of_resolution
    (done : devfile.resolution params.overrides params.debug false = .ok resolution)
    (asked : params.debug = true) :
    devfile.findCommand .debug params.overrides.debug = .ok resolution.debug := by
  have optional : GroupKind.debug.isMandatory = false := rfl
  rw [← Devfile.resolveCommand_eq_findCommand optional]
  exact (resolution_spec done).2 asked

/-- The debug command that a resolution reports is there to be started. -/
theorem requireDebug_of_resolution
    (done : devfile.resolution params.overrides params.debug false = .ok resolution)
    (reported : params.debug = true → ∃ command, resolution.debug = some command) :
    devfile.requireDebug params = .ok () := by
  unfold Devfile.requireDebug
  split
  · rename_i asked
    obtain ⟨command, isCommand⟩ := reported asked
    rw [(resolution_spec done).2 asked, isCommand]
    rfl
  · rfl

/-! ### Renderings -/

theorem wrapContainers_of_findCommand {port : Int} {containers : List Kubernetes.Container}
    {commands : CommandMap} {cause : CommandError}
    (resolved : devfile.resolvePushSet overrides = .ok commands)
    (isCause : devfile.findCommand .debug overrides.debug = .error cause) :
    devfile.wrapContainers overrides port containers = .error (.command cause) := by
  obtain ⟨run, -, foundRun⟩ := Devfile.exists_run_of_resolvePushSet resolved
  rw [Devfile.wrapContainers, foundRun, isCause]
  rfl

/-- After a resolution, the commands are all that a rendering needs to look at the containers. -/
theorem exists_synthesized_of_command_error {commands : CommandMap} {cause : CommandError}
    (resolved : devfile.resolvePushSet params.overrides = .ok commands)
    (debug : devfile.requireDebug params = .ok ())
    (failed : render devfile params = .error (.command cause)) :
    ∃ containers, devfile.synthesizeContainers = .ok containers := by
  cases synthesized : devfile.synthesizeContainers with
  | ok containers => exact ⟨containers, rfl⟩
  | error fault =>
    rw [render, resolved, debug, synthesized] at failed
    cases failed

/-- A rendering after a successful resolution complains about a command only outside debug
mode, and only about the choice of the debug command. -/
theorem render_command_error_iff
    (done : devfile.resolution params.overrides params.debug false = .ok resolution)
    (reported : params.debug = true → ∃ command, resolution.debug = some command)
    (cause : CommandError) :
    render devfile params = .error (.command cause) ↔
      params.debug = false ∧
        devfile.findCommand .debug params.overrides.debug = .error cause ∧
        ∃ containers, devfile.synthesizeContainers = .ok containers := by
  have resolved := (resolution_spec done).1
  have debug := requireDebug_of_resolution done reported
  constructor
  · intro failed
    have synthesized := exists_synthesized_of_command_error resolved debug failed
    generalize isFailure : Failure.command cause = failure at failed
    cases (render_yields devfile params).error failed with
    | unresolved told =>
      cases resolved.symm.trans (Devfile.resolvePushSet_eq_error_iff.mpr ⟨told, rfl⟩)
    | debugGroup isCause =>
      cases isFailure
      refine ⟨Bool.eq_false_iff.mpr fun asked => ?_, isCause, synthesized⟩
      cases isCause.symm.trans (findCommand_of_resolution done asked)
    | noDebug asked isNone =>
      obtain ⟨command, isCommand⟩ := reported asked
      cases isNone.symm.trans ((findCommand_of_resolution done asked).trans (congrArg _ isCommand))
    | mount => cases isFailure
    | event => cases isFailure
    | misplaced => cases isFailure
    | size => cases isFailure
  · rintro ⟨-, isCause, containers, synthesized⟩
    rw [render, resolved, debug, synthesized]
    change (devfile.wrapContainers params.overrides params.effectiveDebugPort containers >>= _) = _
    rw [wrapContainers_of_findCommand resolved isCause]
    rfl

/-- A debug command that does not exist is asked for, without debug mode. -/
theorem render_command_error_iff_sample :
    let params : PushParameters := { overrides := { debug := some "missing" } }
    ∃ resolution, (Devfile.sample []).resolution params.overrides params.debug false =
        .ok resolution ∧
      (params.debug = true → ∃ command, resolution.debug = some command) ∧
      render (.sample []) params = .error (.command (.notFound "missing")) := by
  intro params
  have resolves : ((Devfile.sample []).resolution params.overrides params.debug
      false).toOption.any (fun _ => true) = true := by decide +kernel
  obtain ⟨resolution, done, -⟩ := Checked.exists_of_any_toOption resolves
  refine ⟨resolution, done, nofun, ?_⟩
  exact (render_command_error_iff done nofun _).mpr ⟨rfl, rfl, _, rfl⟩

/-- So a resolution is no promise that a rendering has nothing to say about commands. -/
theorem exists_command_error_of_resolution :
    ¬ ∀ (devfile : Devfile) (params : PushParameters) (resolution : Resolution),
      devfile.resolution params.overrides params.debug false = .ok resolution →
      (params.debug = true → ∃ command, resolution.debug = some command) →
      ∀ cause, render devfile params ≠ .error (.command cause) := by
  intro promise
  have resolves : ((Devfile.sample []).resolution { debug := some "missing" } false
      false).toOption.any (fun _ => true) = true := by decide +kernel
  obtain ⟨resolution, done, -⟩ := Checked.exists_of_any_toOption resolves
  exact promise (.sample []) { overrides := { debug := some "missing" } } resolution done nofun
    (.notFound "missing") rfl

end DevfilePush
