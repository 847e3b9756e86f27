import DevfilePush.Cli.Run
import DevfilePush.Proofs.Settings.Sources

/-!
The settings that a call works with.

A call may ask for a namespace, which goes before all other sources of it. The settings are
checked twice, with the namespace that the other sources give and with the one that is asked
for. So a namespace from the command line does not make up for a blank one in the file
(`load_spec`).
-/

namespace DevfilePush.Cli

/-- The file holds a document that settings can be read from; without a file there are no
entries. -/
def FileHolds (find : String → FileContent) (document : Toml.Document) : Option String → Prop
  | none => document = []
  | some path => ∃ text, find path = .text text ∧ Toml.Document.ofText? text = some document ∧
      (PushSettings.ofDocument? document).isSome = true

variable {find : String → FileContent} {environment : Environment} {invocation : Invocation}
  {devfile : Devfile} {document : Toml.Document} {settings : PushSettings}

/-- The settings of the file are those of its document. -/
theorem FileHolds.exists_base {file : Option String} (holds : FileHolds find document file) :
    ∃ base, PushSettings.ofFile (file.map fun path => (path, find path)) = .ok base ∧
      base = (Sources.mk none [] document).settings := by
  cases file with
  | none =>
    obtain rfl : document = [] := holds
    exact ⟨_, rfl, PushSettings.eq_settings_of_ofDocument? List.nodup_nil rfl⟩
  | some path =>
    obtain ⟨text, found, isDocument, reads⟩ := holds
    obtain ⟨base, isBase⟩ := Option.isSome_iff_exists.mp reads
    refine ⟨base, ?_, PushSettings.eq_settings_of_ofDocument?
      (Toml.Document.nodup_of_ofText? isDocument) isBase⟩
    change (do PushSettings.ofText (← (find path).textAt path)) = _
    rw [found]
    change PushSettings.ofText text = _
    rw [PushSettings.ofText, isDocument, Option.bind_some, isBase]

theorem readSettings_eq_ok_iff (holds : FileHolds find document invocation.settings) :
    readSettings find environment invocation = .ok settings ↔
      ¬ environment.Garbled ∧ (Sources.mk none environment document).settings.Valid ∧
        (Sources.mk invocation.namespaceName environment document).settings.Valid ∧
        settings = (Sources.mk invocation.namespaceName environment document).settings := by
  obtain ⟨base, isFile, isBase⟩ := holds.exists_base
  unfold readSettings
  simp only [Checked.bind_eq_ok_iff, PushSettings.load_eq_ok_iff isFile isBase]
  cases invocation.namespaceName with
  | none =>
    simp only [Checked.pure_eq_ok_iff]
    constructor
    · rintro ⟨_, ⟨readable, valid, rfl⟩, rfl⟩
      exact ⟨readable, valid, valid, rfl⟩
    · rintro ⟨readable, valid, -, rfl⟩
      exact ⟨_, ⟨readable, valid, rfl⟩, rfl⟩
  | some namespaceName =>
    simp only [Checked.bind_eq_ok_iff, Checked.pure_eq_ok_iff]
    constructor
    · rintro ⟨_, ⟨readable, valid, rfl⟩, ⟨⟩, checked, rfl⟩
      exact ⟨readable, valid, PushSettings.validate_eq_ok_iff.mp checked, rfl⟩
    · rintro ⟨readable, valid, validAgain, rfl⟩
      exact ⟨_, ⟨readable, valid, rfl⟩, (), PushSettings.validate_eq_ok_iff.mpr validAgain, rfl⟩

theorem load_eq_ok_iff (isDevfile : readDevfile find invocation.devfile = .ok devfile)
    {found : Devfile} : load find environment invocation = .ok (found, settings) ↔
      found = devfile ∧ readSettings find environment invocation = .ok settings := by
  unfold load
  rw [isDevfile]
  simp only [Checked.bind_eq_ok_iff, Checked.pure_eq_ok_iff, Except.ok.injEq, Prod.mk.injEq]
  constructor
  · rintro ⟨_, rfl, _, read, rfl, rfl⟩
    exact ⟨rfl, read⟩
  · rintro ⟨rfl, read⟩
    exact ⟨_, rfl, _, read, rfl, rfl⟩

/-- What the file says about a setting does not matter where a variable gives it. -/
theorem readSettings_congr {find' : String → FileContent} {file' : Option String}
    {document' : Toml.Document} (holds : FileHolds find document invocation.settings)
    (holds' : FileHolds find' document' file')
    (same : PushSettings.SameBesides environment (Sources.mk none [] document).settings
      (Sources.mk none [] document').settings) :
    readSettings find' environment { invocation with settings := file' } =
      readSettings find environment invocation := by
  obtain ⟨base, isFile, rfl⟩ := holds.exists_base
  obtain ⟨base', isFile', rfl⟩ := holds'.exists_base
  unfold readSettings PushSettings.load
  dsimp only
  rw [isFile, isFile']
  change (((Sources.mk none [] document').settings.overriddenBy environment >>= _) >>= _) =
    (((Sources.mk none [] document).settings.overriddenBy environment >>= _) >>= _)
  rw [same.overriddenBy_eq]

/-- A port in the file with which no push can work. -/
def misported : FileTree :=
  [("devfile.yaml", .text "schemaVersion: 2.2.0"), ("push.toml", .text "debug-port = 0")]

def deletion : Invocation :=
  ⟨"devfile.yaml", some "push.toml", some "staging", .delete none⟩

end DevfilePush.Cli
