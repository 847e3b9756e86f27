import DevfilePush.Command.PushSet
import DevfilePush.Proofs.Checked

/-!
What a resolved command is.

However a command is chosen for a group, by name or by the devfile's own default, it serves
that group: it belongs to it, with the group it was given on the way, and it has passed its
checks in the form in which it is handed out (`Serves`). The commands of a push are the
groups' commands, one look-up per group (`resolvePushSet_spec`), and if there are any groups
without an answer, the push hears of all of them (`resolvePushSet_eq_error_iff`). A resolution on
request is made of the same look-ups, once the devfile is in order (`resolution_of_inOrder`).
-/

namespace DevfilePush.Devfile

variable {devfile : Devfile} {kind : GroupKind} {command chosen : Command}
  {overrides : CommandOverrides}

/-! ### Single groups -/

/-- The command belongs to the group and has passed its checks. -/
structure Serves (devfile : Devfile) (kind : GroupKind) (command : Command) : Prop where
  groupKind : command.groupKind = some kind
  valid : devfile.validateCommand command = .ok ()

/-- There is no composite command in the run group. -/
theorem Serves.exists_exec (serves : devfile.Serves .run command) :
    ∃ body, command.body = .exec body := by
  cases isBody : command.body with
  | exec body => exact ⟨body, rfl⟩
  | composite body =>
    have valid := serves.valid
    have inGroup := serves.groupKind
    rw [Command.groupKind, Command.group, isBody] at inGroup
    obtain ⟨group, isGroup, isRun⟩ := Option.map_eq_some_iff.mp inGroup
    have refused : body.isRun = true := by
      rw [CompositeBody.isRun, show body.group = some group from isGroup, Option.any_some, isRun]
      rfl
    rw [validateCommand, isBody] at valid
    simp only [refused, if_true] at valid
    cases valid

theorem groupKind_withGroup {group : CommandGroup} :
    (command.withGroup group).groupKind = some group.kind := by
  unfold Command.withGroup
  split <;> rfl

theorem validated_eq_ok_iff :
    devfile.validated command = .ok chosen ↔
      chosen = command ∧ devfile.validateCommand command = .ok () := by
  constructor
  · intro done
    obtain ⟨⟨⟩, valid, same⟩ := Checked.bind_eq_ok_iff.mp done
    cases same
    exact ⟨rfl, valid⟩
  · rintro ⟨rfl, valid⟩
    exact Checked.bind_eq_ok_iff.mpr ⟨(), valid, rfl⟩

/-- A command asked for by id is checked as a command of the group. -/
theorem serves_of_overriding {id : String} (done : devfile.overriding kind id = .ok chosen) :
    devfile.Serves kind chosen := by
  unfold overriding at done
  split at done
  · cases done
  · split at done
    · obtain ⟨rfl, valid⟩ := validated_eq_ok_iff.mp done
      exact ⟨groupKind_withGroup, valid⟩
    · rename_i actual isActual
      split at done
      · rename_i same
        obtain ⟨rfl, valid⟩ := validated_eq_ok_iff.mp done
        exact ⟨same ▸ isActual, valid⟩
      · cases done

/-- The devfile elects commands of the group, and they are checked as well. -/
theorem serves_of_defaultCommand (done : devfile.defaultCommand kind = .ok (some chosen)) :
    devfile.Serves kind chosen := by
  simp only [defaultCommand] at done
  split at done
  · cases done
  · split at done
    · cases done
    · rename_i candidate isCandidate
      obtain ⟨command, isValid, same⟩ := Checked.bind_eq_ok_iff.mp done
      obtain ⟨rfl, valid⟩ := validated_eq_ok_iff.mp isValid
      cases same
      have mem : chosen ∈ devfile.commandsOf kind := by
        rcases Option.or_eq_some_iff.mp isCandidate with isDefault | ⟨-, isFirst⟩
        · exact List.mem_of_find?_eq_some isDefault
        · exact List.mem_of_head? isFirst
      exact ⟨of_decide_eq_true (List.mem_filter.mp mem).2, valid⟩

/-- So whatever is found for a group serves it. -/
theorem serves_of_findCommand {override : Option String}
    (done : devfile.findCommand kind override = .ok (some chosen)) :
    devfile.Serves kind chosen := by
  cases override with
  | none => exact serves_of_defaultCommand done
  | some id =>
    obtain ⟨command, overridden, same⟩ := Checked.bind_eq_ok_iff.mp done
    cases same
    exact serves_of_overriding overridden

/-- A group is resolved to nothing but what is found for it. -/
theorem findCommand_of_resolveCommand {override : Option String}
    (done : devfile.resolveCommand kind override = .ok (some chosen)) :
    devfile.findCommand kind override = .ok (some chosen) := by
  obtain ⟨found, isFound, same⟩ := Checked.bind_eq_ok_iff.mp done
  cases found with
  | some command =>
    cases same
    exact isFound
  | none =>
    dsimp only at same
    split at same <;> cases same

/-- A group that need not have a command is resolved to whatever is found. -/
theorem resolveCommand_eq_findCommand (optional : kind.isMandatory = false)
    (override : Option String) :
    devfile.resolveCommand kind override = devfile.findCommand kind override := by
  unfold resolveCommand
  cases devfile.findCommand kind override with
  | error cause => rfl
  | ok found =>
    cases found with
    | some command => rfl
    | none =>
      change (if kind.isMandatory then _ else _) = _
      rw [optional]
      rfl

/-- A mandatory group is resolved to a command. -/
theorem exists_of_resolveCommand (mandatory : kind.isMandatory = true) {override : Option String}
    {found : Option Command} (done : devfile.resolveCommand kind override = .ok found) :
    ∃ command, found = some command := by
  obtain ⟨sought, isFound, same⟩ := Checked.bind_eq_ok_iff.mp done
  cases sought with
  | some command =>
    cases same
    exact ⟨command, rfl⟩
  | none =>
    dsimp only at same
    rw [mandatory] at same
    cases same

/-! ### The commands of a push -/

/-- What a push is told about a group that cannot be resolved. -/
def unresolvedMessage? (devfile : Devfile) (overrides : CommandOverrides) (kind : GroupKind) :
    Option String :=
  match devfile.resolveCommand kind (overrides.get? kind) with
  | .ok _ => none
  | .error cause => some cause.message

theorem unresolvedMessage?_eq_none_iff :
    devfile.unresolvedMessage? overrides kind = none ↔
      ∃ found, devfile.resolveCommand kind (overrides.get? kind) = .ok found := by
  unfold unresolvedMessage?
  cases devfile.resolveCommand kind (overrides.get? kind) <;> simp

/-- The messages are those of the groups that cannot be resolved, after those that there were. -/
theorem messages_resolveGroups (devfile : Devfile) (overrides : CommandOverrides)
    (kinds : List GroupKind) (commands : CommandMap) (messages : List String) :
    (devfile.resolveGroups overrides kinds commands messages).2 =
      messages ++ kinds.filterMap (devfile.unresolvedMessage? overrides) := by
  induction kinds generalizing commands messages with
  | nil => rw [resolveGroups, List.filterMap_nil, List.append_nil]
  | cons kind rest ih =>
    rw [resolveGroups, List.filterMap_cons, unresolvedMessage?]
    cases devfile.resolveCommand kind (overrides.get? kind) with
    | ok found => cases found <;> exact ih _ _
    | error cause =>
      dsimp only
      rw [ih, List.append_assoc]
      rfl

/-- If there is no message in the end, every group has been resolved, and each look-up in
the map answers what the group was resolved to. -/
theorem resolveGroups_spec {kinds : List GroupKind}
    {commands resolved : CommandMap} {messages : List String} (nodup : kinds.Nodup)
    (fresh : ∀ kind ∈ kinds, commands.get? kind = none)
    (done : devfile.resolveGroups overrides kinds commands messages = (resolved, [])) :
    (∀ kind ∈ kinds,
      devfile.resolveCommand kind (overrides.get? kind) = .ok (resolved.get? kind)) ∧
      ∀ kind ∉ kinds, resolved.get? kind = commands.get? kind := by
  induction kinds generalizing commands messages with
  | nil =>
    cases done
    exact ⟨by simp, fun _ _ => rfl⟩
  | cons kind rest ih =>
    obtain ⟨notRest, nodupRest⟩ := List.nodup_cons.mp nodup
    have freshRest : ∀ other ∈ rest, commands.get? other = none := fun other mem =>
      fresh other (List.mem_cons_of_mem _ mem)
    rw [resolveGroups] at done
    split at done
    · rename_i command isCommand
      have ne : ∀ other ∈ rest, other ≠ kind := by
        intro other mem same
        exact notRest (same ▸ mem)
      obtain ⟨resolvedRest, untouched⟩ := ih nodupRest (fun other mem =>
        (commands.get?_insert_of_ne (ne other mem) command).trans (freshRest other mem)) done
      refine ⟨?_, ?_⟩
      · intro other mem
        rcases List.mem_cons.mp mem with rfl | mem
        · rw [isCommand, untouched _ notRest, OrderedMap.get?_insert_self]
        · exact resolvedRest other mem
      · intro other absent
        obtain ⟨ne, notRest⟩ := not_or.mp (fun mem => absent (List.mem_cons.mpr mem))
        rw [untouched other notRest, commands.get?_insert_of_ne ne]
    · rename_i isNone
      obtain ⟨resolvedRest, untouched⟩ := ih nodupRest freshRest done
      refine ⟨?_, fun other absent => untouched other fun mem =>
        absent (List.mem_cons_of_mem _ mem)⟩
      intro other mem
      rcases List.mem_cons.mp mem with rfl | mem
      · rw [isNone, untouched _ notRest, fresh _ List.mem_cons_self]
      · exact resolvedRest other mem
    · rename_i error isError
      have told := messages_resolveGroups devfile overrides rest commands
        (messages ++ [error.message])
      rw [done] at told
      simp at told

/-- The commands of a push are those that its groups are resolved to, and there are no others. -/
theorem resolvePushSet_spec {commands : CommandMap}
    (done : devfile.resolvePushSet overrides = .ok commands) :
    (∀ kind ∈ pushGroups,
      devfile.resolveCommand kind (overrides.get? kind) = .ok (commands.get? kind)) ∧
      ∀ kind ∉ pushGroups, commands.get? kind = none := by
  simp only [resolvePushSet] at done
  split at done
  · rename_i noMessages
    cases done
    have nodup : pushGroups.Nodup := by decide
    exact resolveGroups_spec nodup (fun kind _ => OrderedMap.get?_empty kind)
      (Prod.ext rfl (List.isEmpty_iff.mp noMessages))
  · cases done

/-- Every command of a push serves the group that it stands under. -/
theorem serves_of_get? {commands : CommandMap}
    (done : devfile.resolvePushSet overrides = .ok commands)
    (chosen : commands.get? kind = some command) : devfile.Serves kind command := by
  obtain ⟨resolved, absent⟩ := resolvePushSet_spec done
  by_cases mem : kind ∈ pushGroups
  · exact serves_of_findCommand
      (findCommand_of_resolveCommand ((resolved kind mem).trans (congrArg _ chosen)))
  · rw [absent kind mem] at chosen
    cases chosen

/-- Every command of a push has passed its checks. -/
theorem validateCommand_of_get? {commands : CommandMap}
    (done : devfile.resolvePushSet overrides = .ok commands)
    (chosen : commands.get? kind = some command) : devfile.validateCommand command = .ok () :=
  (serves_of_get? done chosen).valid

/-- A push always has a run command. -/
theorem exists_run_of_resolvePushSet {commands : CommandMap}
    (done : devfile.resolvePushSet overrides = .ok commands) :
    ∃ run, commands.get? .run = some run ∧
      devfile.findCommand .run overrides.run = .ok (some run) := by
  have resolved : devfile.resolveCommand .run overrides.run = .ok (commands.get? .run) :=
    (resolvePushSet_spec done).1 .run (by decide)
  obtain ⟨run, isRun⟩ := exists_of_resolveCommand rfl resolved
  exact ⟨run, isRun, findCommand_of_resolveCommand (resolved.trans (congrArg _ isRun))⟩

/-- A push fails to resolve its groups when one of them cannot be resolved, and it is told
about all of those at once. -/
theorem resolvePushSet_eq_error_iff {cause : CommandError} :
    devfile.resolvePushSet overrides = .error cause ↔
      pushGroups.filterMap (devfile.unresolvedMessage? overrides) ≠ [] ∧
        cause = .aggregate (pushGroups.filterMap (devfile.unresolvedMessage? overrides)) := by
  have told := messages_resolveGroups devfile overrides pushGroups .empty []
  rw [List.nil_append] at told
  simp only [resolvePushSet, told]
  cases pushGroups.filterMap (devfile.unresolvedMessage? overrides) with
  | nil => simp
  | cons message others => simp [eq_comm]

/-! ### Resolutions -/

/-- The groups that a resolution looks at. -/
def resolutionGroups (debug test : Bool) : List GroupKind :=
  pushGroups ++ (if debug then [.debug] else []) ++ (if test then [.test] else [])

/-- A look-up that is only made on demand. -/
def onDemand (asked : Bool) (found : Except CommandError (Option Command)) :
    Except CommandError (Option Command) :=
  if asked then found else .ok none

theorem onDemand_eq_ok {asked : Bool} {found : Except CommandError (Option Command)}
    {result : Option Command} (done : onDemand asked found = .ok result) (isAsked : asked = true) :
    found = .ok result :=
  (if_pos isAsked).symm.trans done

theorem onDemand_eq_error_iff {asked : Bool} {found : Except CommandError (Option Command)}
    {cause : CommandError} :
    onDemand asked found = .error cause ↔ asked = true ∧ found = .error cause := by
  cases asked <;> simp [onDemand]

/-- A resolution of what a report has nothing against, look-up by look-up. -/
theorem resolution_of_inOrder {debug test : Bool}
    (inOrder : devfile.commandProblems (resolutionGroups debug test) = []) :
    devfile.resolution overrides debug test = (do
      let commands ← devfile.resolvePushSet overrides
      let debugCommand ← onDemand debug (devfile.resolveCommand .debug overrides.debug)
      let testCommand ← onDemand test (some <$> devfile.resolveTestCommand overrides.test)
      return ⟨commands, debugCommand, testCommand⟩) := by
  unfold resolutionGroups at inOrder
  simp only [resolution, inOrder]
  cases debug <;> cases test <;> rfl

/-- Nothing is resolved before the report is empty. -/
theorem inOrder_of_resolution {debug test : Bool} {resolution : Resolution}
    (done : devfile.resolution overrides debug test = .ok resolution) :
    devfile.commandProblems (resolutionGroups debug test) = [] := by
  cases problems : devfile.commandProblems (resolutionGroups debug test) with
  | nil => rfl
  | cons problem others =>
    unfold resolutionGroups at problems
    simp only [Devfile.resolution, problems] at done
    cases done

end DevfilePush.Devfile
