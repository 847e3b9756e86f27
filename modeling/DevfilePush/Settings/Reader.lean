import DevfilePush.Settings.Basic
import DevfilePush.Toml.Document

/-!
Settings as the text of a file.

A file sets any of the settings; those that it leaves out keep their defaults.
-/

namespace DevfilePush.PushSettings

/-- The settings with one of them changed; none if there is no such setting or the value
is not one for it. -/
def set? (settings : PushSettings) (key : String) (value : Toml.Value) : Option PushSettings :=
  match key, value with
  | "namespace", .text s => some { settings with namespaceName := s }
  | "readiness-timeout", .integer n =>
    if n < 0 then none else some { settings with readinessTimeout := n.toNat }
  | "shell", .text s => some { settings with shell := s }
  | "bootstrap-image", .text s => some { settings with bootstrapImage := s }
  | "debug-port", .integer n =>
    if Text.Integer.fitsSigned 32 n then some { settings with debugPort := n } else none
  | _, _ => none

/-- The default settings, with the entries of a document in place of some of them. -/
def ofDocument? (document : Toml.Document) : Option PushSettings :=
  document.foldlM (fun settings entry => settings.set? entry.1 entry.2) {}

/-- The settings that a text holds. -/
def ofText (text : String) : Except ConfigError PushSettings :=
  match (Toml.Document.ofText? text).bind ofDocument? with
  | some settings => .ok settings
  | none => .error (.parsing "settings" none)

end DevfilePush.PushSettings
