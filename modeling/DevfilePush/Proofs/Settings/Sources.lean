import DevfilePush.Proofs.Checked
import DevfilePush.Settings.Load

/-!
Where settings come from.

A setting may be given by the call, by a variable of the environment and by a file, and has a
default. `Sources.settings` takes each one from the first of these that gives it. Loading
arrives at the same settings layer by layer, and fails only over a variable that is not a
number or over settings with which no push can work (`load_eq_ok_iff`). So what a file says
about a setting does not matter, not even if no push can work with it, once a variable gives
the setting (`SameBesides.overriddenBy_eq`).
-/

namespace DevfilePush

/-! ### Settings that a push can work with -/

namespace PushSettings

variable {settings : PushSettings}

/-- Settings with which a push can work. -/
structure Valid (settings : PushSettings) : Prop where
  namespaceName : Text.isBlankText settings.namespaceName = false
  readinessTimeout : 0 < settings.readinessTimeout
  debugPort : 1 ≤ settings.debugPort ∧ settings.debugPort ≤ 65535
  shell : Text.isBlankText settings.shell = false

/-- Settings without a problem are those that a push can work with. -/
theorem problem?_eq_none_iff : settings.problem? = none ↔ settings.Valid := by
  unfold problem?
  constructor
  · intro none
    split at none
    · cases none
    · rename_i namespaceName
      split at none
      · cases none
      · rename_i readinessTimeout
        split at none
        · cases none
        · rename_i debugPort
          split at none
          · cases none
          · rename_i shell
            exact ⟨Bool.eq_false_iff.mpr namespaceName, Nat.pos_of_ne_zero readinessTimeout,
              by omega, Bool.eq_false_iff.mpr shell⟩
  · rintro ⟨namespaceName, readinessTimeout, debugPort, shell⟩
    have inRange : ¬ (settings.debugPort < 1 ∨ 65535 < settings.debugPort) := by omega
    rw [if_neg (Bool.eq_false_iff.mp namespaceName), if_neg (Nat.ne_of_gt readinessTimeout),
      if_neg inRange,
      if_neg (Bool.eq_false_iff.mp shell)]

theorem validate_eq_ok_iff : settings.validate = .ok () ↔ settings.Valid := by
  rw [← problem?_eq_none_iff, validate]
  cases settings.problem? with
  | none => exact iff_of_true rfl rfl
  | some problem => exact iff_of_false nofun nofun

end PushSettings

/-! ### Entries of a file -/

namespace Toml

def Value.text? : Value → Option String
  | .text content => some content
  | .integer _ => none

def Value.integer? : Value → Option Int
  | .text _ => none
  | .integer n => some n

/-- The text under a key. -/
def Document.text? (document : Document) (key : String) : Option String :=
  (document.lookup key).bind Value.text?

/-- The number under a key. -/
def Document.integer? (document : Document) (key : String) : Option Int :=
  (document.lookup key).bind Value.integer?

/-- A document with a key that is repeated is not read at all. -/
theorem Document.nodup_of_ofText? {text : String} {document : Document}
    (read : ofText? text = some document) : (document.map (·.1)).Nodup := by
  obtain ⟨-, distinct⟩ := Option.filter_eq_some_iff.mp read
  exact of_decide_eq_true distinct

end Toml

namespace PushSettings

variable {α : Type} {settings after : PushSettings} {key : String} {value : Toml.Value}
  {document : Toml.Document}

/-- An entry sets the one setting that its key names. -/
theorem fields_of_set? (done : settings.set? key value = some after) :
    after.namespaceName =
      (if key = "namespace" then value.text? else none).getD settings.namespaceName ∧
    after.readinessTimeout =
      (if key = "readiness-timeout" then value.integer?.map Int.toNat else none).getD
        settings.readinessTimeout ∧
    after.shell = (if key = "shell" then value.text? else none).getD settings.shell ∧
    after.bootstrapImage =
      (if key = "bootstrap-image" then value.text? else none).getD settings.bootstrapImage ∧
    after.debugPort =
      (if key = "debug-port" then value.integer? else none).getD settings.debugPort := by
  unfold set? at done
  split at done
  case h_6 => cases done
  case h_2 | h_5 =>
    split at done <;> cases done
    simp [Toml.Value.integer?]
  all_goals
    cases done
    simp [Toml.Value.text?]

/-- An entry under `key` gives the setting `field`, read by `read`, and no other entry does. -/
def Gives (key : String) (read : Toml.Value → Option α) (field : PushSettings → α) : Prop :=
  ∀ {settings after : PushSettings} {other : String} {value : Toml.Value},
    settings.set? other value = some after →
      field after = (if other = key then read value else none).getD (field settings)

/-- So does the whole document, in which there is at most one such entry. -/
theorem Gives.foldlM {read : Toml.Value → Option α} {field : PushSettings → α}
    (gives : Gives key read field) (distinct : (document.map (·.1)).Nodup)
    (done : document.foldlM (fun settings entry => settings.set? entry.1 entry.2) settings =
      some after) :
    field after = ((document.lookup key).bind read).getD (field settings) := by
  induction document generalizing settings with
  | nil =>
    cases done
    rfl
  | cons entry rest ih =>
    obtain ⟨name, value⟩ := entry
    rw [List.foldlM_cons] at done
    obtain ⟨between, isSet, done⟩ := Option.bind_eq_some_iff.mp done
    obtain ⟨unused, distinct⟩ := List.nodup_cons.mp distinct
    rw [ih distinct done, gives isSet, List.lookup_cons]
    by_cases same : name = key
    · have absent : rest.lookup key = none := by
        refine List.lookup_eq_none_iff.mpr fun entry mem => ?_
        rw [bne_iff_ne, ← same]
        rintro rfl
        exact unused (List.mem_map_of_mem (f := (·.1)) mem)
      simp [same, absent]
    · have apart : (key == name) = false := by simpa using Ne.symm same
      simp [same, apart]

end PushSettings

/-! ### Sources -/

/-- The text of the variable is not blank, but no number can be read from it. -/
def Environment.Unreadable {α : Type} (environment : Environment) (name : String)
    (read : List Char → Option α) : Prop :=
  ∃ raw, environment.nonBlank? name = some raw ∧ read (Text.trimChars raw.toList) = none

/-- One of the variables that hold a number is unreadable. -/
def Environment.Garbled (environment : Environment) : Prop :=
  environment.Unreadable PushSettings.readinessTimeoutVar PushSettings.seconds? ∨
    environment.Unreadable PushSettings.debugPortVar PushSettings.port?

/-- The number in a variable that is not blank. -/
def Environment.number? {α : Type} (environment : Environment) (name : String)
    (read : List Char → Option α) : Option α :=
  (environment.nonBlank? name).bind fun raw => read (Text.trimChars raw.toList)

/-- What is said about the settings: the namespace that a call asks for, the variables of its
environment and the entries of its file. -/
structure Sources where
  namespaceName : Option String
  environment : Environment
  document : Toml.Document

namespace Sources

variable {α : Type} {source : Option α} {sources : List (Option α)} {default : α}

/-- The value of the first source that has one. -/
def first (sources : List (Option α)) (default : α) : α :=
  (sources.findSome? id).getD default

@[simp] theorem first_nil : first [] default = default := rfl

@[simp] theorem first_cons :
    first (source :: sources) default = source.getD (first sources default) := by
  cases source <;> rfl

/-- Each setting, from the first source that has it. -/
def settings (sources : Sources) : PushSettings where
  namespaceName :=
    first [sources.namespaceName, sources.environment.nonBlank? PushSettings.namespaceVar,
      sources.document.text? "namespace"] "default"
  readinessTimeout :=
    first [sources.environment.number? PushSettings.readinessTimeoutVar PushSettings.seconds?,
      (sources.document.integer? "readiness-timeout").map Int.toNat] 240
  shell := first [sources.document.text? "shell"] defaultShell
  bootstrapImage :=
    first [sources.environment.nonBlank? PushSettings.bootstrapImageVar,
      sources.document.text? "bootstrap-image"] defaultBootstrapImage
  debugPort :=
    first [sources.environment.number? PushSettings.debugPortVar PushSettings.port?,
      sources.document.integer? "debug-port"] defaultDebugPort

end Sources

namespace PushSettings

variable {environment : Environment} {document : Toml.Document}
  {base other settings : PushSettings}

/-- Without variables, what the document does not give is as by default. -/
theorem eq_settings_of_ofDocument? (distinct : (document.map (·.1)).Nodup)
    (read : ofDocument? document = some base) : base = (Sources.mk none [] document).settings := by
  have isNamespace : base.namespaceName = (document.text? "namespace").getD "default" :=
    Gives.foldlM (fun done => (fields_of_set? done).1) distinct read
  have isTimeout : base.readinessTimeout =
      ((document.integer? "readiness-timeout").map Int.toNat).getD 240 := by
    rw [Toml.Document.integer?, Option.map_bind]
    exact Gives.foldlM (fun done => (fields_of_set? done).2.1) distinct read
  have isShell : base.shell = (document.text? "shell").getD defaultShell :=
    Gives.foldlM (fun done => (fields_of_set? done).2.2.1) distinct read
  have isImage : base.bootstrapImage =
      (document.text? "bootstrap-image").getD defaultBootstrapImage :=
    Gives.foldlM (fun done => (fields_of_set? done).2.2.2.1) distinct read
  have isPort : base.debugPort = (document.integer? "debug-port").getD defaultDebugPort :=
    Gives.foldlM (fun done => (fields_of_set? done).2.2.2.2) distinct read
  calc base
      = ⟨base.namespaceName, base.readinessTimeout, base.shell, base.bootstrapImage,
          base.debugPort⟩ := rfl
    _ = (Sources.mk none [] document).settings := by
      rw [isNamespace, isTimeout, isShell, isImage, isPort]
      simp [Sources.settings, Environment.number?, Environment.nonBlank?]

/-- The number in a variable goes before that of the settings, if there is one to be read. -/
theorem numberOr_eq_ok_iff {α : Type} {name : String} {read : List Char → Option α}
    {fallback number : α} : environment.numberOr name read fallback = .ok number ↔
      ¬ environment.Unreadable name read ∧
        number = (environment.number? name read).getD fallback := by
  unfold Environment.numberOr Environment.Unreadable Environment.number?
  cases environment.nonBlank? name with
  | none => simp [eq_comm]
  | some raw =>
    dsimp only
    unfold Environment.number
    cases isNumber : read (Text.trimChars raw.toList) with
    | none => simp [isNumber]
    | some n => simp [isNumber, eq_comm]

/-- Variables go before the settings that there are already. -/
theorem overriddenBy_eq_ok_iff : base.overriddenBy environment = .ok settings ↔
    ¬ environment.Garbled ∧
      settings =
        { namespaceName := (environment.nonBlank? namespaceVar).getD base.namespaceName
          readinessTimeout :=
            (environment.number? readinessTimeoutVar seconds?).getD base.readinessTimeout
          shell := base.shell
          bootstrapImage := (environment.nonBlank? bootstrapImageVar).getD base.bootstrapImage
          debugPort := (environment.number? debugPortVar port?).getD base.debugPort } := by
  unfold overriddenBy Environment.Garbled
  simp only [Checked.bind_eq_ok_iff, numberOr_eq_ok_iff, Checked.pure_eq_ok_iff, not_or]
  constructor
  · rintro ⟨timeout, ⟨readableTimeout, rfl⟩, port, ⟨readablePort, rfl⟩, rfl⟩
    exact ⟨⟨readableTimeout, readablePort⟩, rfl⟩
  · rintro ⟨⟨readableTimeout, readablePort⟩, rfl⟩
    exact ⟨_, ⟨readableTimeout, rfl⟩, _, ⟨readablePort, rfl⟩, rfl⟩

/-- Over what a file gives, variables come to the first of both sources. -/
theorem overriddenBy_eq_settings (isBase : base = (Sources.mk none [] document).settings) :
    base.overriddenBy environment = .ok settings ↔
      ¬ environment.Garbled ∧ settings = (Sources.mk none environment document).settings := by
  have layered : (Sources.mk none environment document).settings =
      { namespaceName := (environment.nonBlank? namespaceVar).getD base.namespaceName
        readinessTimeout :=
          (environment.number? readinessTimeoutVar seconds?).getD base.readinessTimeout
        shell := base.shell
        bootstrapImage := (environment.nonBlank? bootstrapImageVar).getD base.bootstrapImage
        debugPort := (environment.number? debugPortVar port?).getD base.debugPort } := by
    rw [isBase]
    simp [Sources.settings, Environment.number?, Environment.nonBlank?]
  rw [overriddenBy_eq_ok_iff, layered]

/-- Loading comes to the settings of all sources, if every number in a variable can be read and a
push can work with them. -/
theorem load_eq_ok_iff {file : Option (String × FileContent)} (read : ofFile file = .ok base)
    (isBase : base = (Sources.mk none [] document).settings) :
    load file environment = .ok settings ↔
      ¬ environment.Garbled ∧ settings.Valid ∧
        settings = (Sources.mk none environment document).settings := by
  unfold load
  rw [read]
  simp only [Checked.bind_eq_ok_iff, Checked.pure_eq_ok_iff, Except.ok.injEq]
  constructor
  · rintro ⟨_, rfl, loaded, isLoaded, ⟨⟩, checked, rfl⟩
    obtain ⟨readable, isSettings⟩ := (overriddenBy_eq_settings isBase).mp isLoaded
    exact ⟨readable, validate_eq_ok_iff.mp checked, isSettings⟩
  · rintro ⟨readable, valid, isSettings⟩
    exact ⟨_, rfl, settings, (overriddenBy_eq_settings isBase).mpr ⟨readable, isSettings⟩, (),
      validate_eq_ok_iff.mpr valid, rfl⟩

/-! ### Settings that do not matter -/

/-- Two settings are the same, but for what the variables give. -/
structure SameBesides (environment : Environment) (base other : PushSettings) : Prop where
  namespaceName : environment.nonBlank? namespaceVar = none →
    base.namespaceName = other.namespaceName
  readinessTimeout : environment.nonBlank? readinessTimeoutVar = none →
    base.readinessTimeout = other.readinessTimeout
  shell : base.shell = other.shell
  bootstrapImage : environment.nonBlank? bootstrapImageVar = none →
    base.bootstrapImage = other.bootstrapImage
  debugPort : environment.nonBlank? debugPortVar = none → base.debugPort = other.debugPort

theorem getD_nonBlank?_congr {name fallback fallback' : String}
    (same : environment.nonBlank? name = none → fallback = fallback') :
    (environment.nonBlank? name).getD fallback = (environment.nonBlank? name).getD fallback' := by
  cases isText : environment.nonBlank? name with
  | none => exact same isText
  | some text => rfl

/-- What is under a variable does not matter where the variable is set. -/
theorem numberOr_congr {α : Type} {name : String} {read : List Char → Option α}
    {fallback fallback' : α} (same : environment.nonBlank? name = none → fallback = fallback') :
    environment.numberOr name read fallback = environment.numberOr name read fallback' := by
  unfold Environment.numberOr
  cases isText : environment.nonBlank? name with
  | none => rw [same isText]
  | some raw => rfl

/-- So neither does what a file says of it. -/
theorem SameBesides.overriddenBy_eq (same : SameBesides environment base other) :
    base.overriddenBy environment = other.overriddenBy environment := by
  unfold overriddenBy
  rw [numberOr_congr same.readinessTimeout, numberOr_congr same.debugPort,
    getD_nonBlank?_congr same.namespaceName, getD_nonBlank?_congr same.bootstrapImage, same.shell]

end PushSettings

end DevfilePush
