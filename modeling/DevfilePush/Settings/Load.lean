import DevfilePush.Files
import DevfilePush.Settings.Reader

/-!
Loading settings: the defaults, then a file, then variables of the environment.

A variable that is blank counts as not set.
-/

namespace DevfilePush

/-- Variables with their values. -/
abbrev Environment := List (String × String)

/-- The value of a variable, unless it is blank. -/
def Environment.nonBlank? (environment : Environment) (name : String) : Option String :=
  (environment.lookup name).filter fun value => !Text.isBlankText value

/-- A number read from the variable `name`; blanks around it do not count. -/
def Environment.number {α : Type} (name raw : String) (read : List Char → Option α) :
    Except ConfigError α :=
  match read (Text.trimChars raw.toList) with
  | some n => .ok n
  | none => .error (.parsing name (some s!"invalid value '{raw}'"))

/-- The number in the variable `name`, or `fallback` where the variable is blank. -/
def Environment.numberOr {α : Type} (environment : Environment) (name : String)
    (read : List Char → Option α) (fallback : α) : Except ConfigError α :=
  match environment.nonBlank? name with
  | some raw => number name raw read
  | none => .ok fallback

namespace PushSettings

def namespaceVar : String := "DEVPUSH_NAMESPACE"

def readinessTimeoutVar : String := "DEVPUSH_READINESS_TIMEOUT"

def bootstrapImageVar : String := "DEVPUSH_BOOTSTRAPPER_IMAGE"

def debugPortVar : String := "DEVPUSH_DEBUG_PORT"

/-- The variables that settings are taken from. -/
def variableNames : List String :=
  [namespaceVar, readinessTimeoutVar, bootstrapImageVar, debugPortVar]

/-- A number of seconds, which fits 64 bits. -/
def seconds? (cs : List Char) : Option Nat :=
  (Text.Integer.unsigned? cs).filter (Text.Integer.fitsUnsigned 64)

/-- A port number; whether it is in range is checked with the other settings. -/
def port? (cs : List Char) : Option Int :=
  (Text.Integer.signed? cs).filter (Text.Integer.fitsSigned 32)

/-- The settings, with the variables of the environment in place of some of them. -/
def overriddenBy (settings : PushSettings) (environment : Environment) :
    Except ConfigError PushSettings := do
  let namespaceName := (environment.nonBlank? namespaceVar).getD settings.namespaceName
  let readinessTimeout ←
    environment.numberOr readinessTimeoutVar seconds? settings.readinessTimeout
  let bootstrapImage := (environment.nonBlank? bootstrapImageVar).getD settings.bootstrapImage
  let debugPort ← environment.numberOr debugPortVar port? settings.debugPort
  return { settings with namespaceName, readinessTimeout, bootstrapImage, debugPort }

/-- The settings of a file, or the defaults where no file is given. -/
def ofFile : Option (String × FileContent) → Except ConfigError PushSettings
  | none => .ok {}
  | some (path, content) => do ofText (← content.textAt path)

/-- Loads settings and checks them. -/
def load (file : Option (String × FileContent)) (environment : Environment) :
    Except ConfigError PushSettings := do
  let settings ← (← ofFile file).overriddenBy environment
  settings.validate
  return settings

end PushSettings

end DevfilePush
