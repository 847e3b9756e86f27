import DevfilePush.Failure
import DevfilePush.Json.Basic
import DevfilePush.Text.Blank

/-!
The settings of a push that do not come from the devfile.
-/

namespace DevfilePush

/-- The shell that runs commands unless the settings name another. -/
def defaultShell : String := "/bin/sh"

/-- The image that provides the supervisor unless the settings name another. -/
def defaultBootstrapImage : String :=
  "registry.access.redhat.com/ocp-tools-4/odo-init-container-rhel8:1.1.11"

/-- The port of the debugger unless something else is asked for. -/
def defaultDebugPort : Int := 5858

/-- Settings of a push. -/
structure PushSettings where
  /-- The namespace of the component's objects. -/
  namespaceName : String := "default"
  /-- How many seconds to wait for a running pod. -/
  readinessTimeout : Nat := 240
  shell : String := defaultShell
  bootstrapImage : String := defaultBootstrapImage
  debugPort : Int := defaultDebugPort
  deriving DecidableEq, Repr

namespace PushSettings

/-- What is wrong with the settings. -/
def problem? (settings : PushSettings) : Option String :=
  if Text.isBlankText settings.namespaceName then some "namespace must not be empty"
  else if settings.readinessTimeout = 0 then
    some "readiness-timeout must be greater than zero"
  else if settings.debugPort < 1 ∨ 65535 < settings.debugPort then
    some s!"debug-port {settings.debugPort} is outside 1-65535"
  else if Text.isBlankText settings.shell then some "shell must not be empty"
  else none

/-- Refuses settings with which a push cannot work. -/
def validate (settings : PushSettings) : Except ConfigError Unit :=
  match settings.problem? with
  | none => .ok ()
  | some problem => .error (.validation problem)

/-- How long to wait for a running pod. -/
def timeout (settings : PushSettings) : Duration :=
  .ofSeconds settings.readinessTimeout

def toJson (settings : PushSettings) : Json :=
  .object
    [("namespace", .string settings.namespaceName),
      ("readiness-timeout", .integer settings.readinessTimeout),
      ("shell", .string settings.shell),
      ("bootstrap-image", .string settings.bootstrapImage),
      ("debug-port", .integer settings.debugPort)]

end PushSettings

end DevfilePush
