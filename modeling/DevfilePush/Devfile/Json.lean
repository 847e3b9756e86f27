import DevfilePush.Devfile.Basic
import DevfilePush.Json.Basic

/-!
Devfiles as JSON.

Absent values and empty lists are left out, except for the lists that make up a
composite command. `Devfile.toJson` loses nothing: from the document that it denotes the
devfile is read again.
-/

namespace DevfilePush

/-- A list, left out when it is empty. -/
def Json.nonEmpty? {α : Type} (write : α → Json) (items : List α) : Option Json :=
  if items.isEmpty then none else some (.array (items.map write))

def CommandGroup.toJson (group : CommandGroup) : Json :=
  .object [("kind", .string group.kind.name), ("isDefault", .bool group.isDefault)]

def EnvVar.toJson (var : EnvVar) : Json :=
  .object [("name", .string var.name), ("value", .string var.value)]

def ExecBody.toJson (body : ExecBody) : Json :=
  Json.ofFields
    [("component", some (.string body.component)),
      ("commandLine", some (.string body.commandLine)),
      ("workingDir", body.workingDir.map .string),
      ("env", Json.nonEmpty? EnvVar.toJson body.env),
      ("group", body.group.map CommandGroup.toJson)]

def CompositeBody.toJson (body : CompositeBody) : Json :=
  Json.ofFields
    [("commands", some (Json.ofStrings body.commands)),
      ("group", body.group.map CommandGroup.toJson),
      ("parallel", some (.bool body.parallel))]

def Command.toJson (command : Command) : Json :=
  match command.body with
  | .exec body => .object [("id", .string command.id), ("exec", body.toJson)]
  | .composite body => .object [("id", .string command.id), ("composite", body.toJson)]

def Endpoint.toJson (endpoint : Endpoint) : Json :=
  Json.ofFields
    [("name", some (.string endpoint.name)),
      ("targetPort", some (.integer endpoint.targetPort)),
      ("exposure", some (.string endpoint.exposure.name)),
      ("protocol", some (.string endpoint.protocol.name)),
      ("secure", some (.bool endpoint.secure)),
      ("path", endpoint.path.map .string)]

def VolumeMountRef.toJson (mount : VolumeMountRef) : Json :=
  Json.ofFields [("name", some (.string mount.name)), ("path", mount.path.map .string)]

def ContainerBody.toJson (body : ContainerBody) : Json :=
  Json.ofFields
    [("image", some (.string body.image)),
      ("command", Json.nonEmpty? .string body.command),
      ("args", Json.nonEmpty? .string body.args),
      ("env", Json.nonEmpty? EnvVar.toJson body.env),
      ("endpoints", Json.nonEmpty? Endpoint.toJson body.endpoints),
      ("memoryLimit", body.memoryLimit.map .string),
      ("mountSources", body.mountSources.map .bool),
      ("sourceMapping", body.sourceMapping.map .string),
      ("volumeMounts", Json.nonEmpty? VolumeMountRef.toJson body.volumeMounts)]

def VolumeBody.toJson (body : VolumeBody) : Json :=
  Json.ofFields [("size", body.size.map .string)]

def Component.toJson (component : Component) : Json :=
  match component.body with
  | .container body => .object [("name", .string component.name), ("container", body.toJson)]
  | .volume body => .object [("name", .string component.name), ("volume", body.toJson)]

def Project.toJson (project : Project) : Json :=
  Json.ofFields
    [("name", some (.string project.name)), ("clonePath", project.clonePath.map .string)]

def Events.toJson (events : Events) : Json :=
  Json.ofFields
    [("preStart", Json.nonEmpty? .string events.preStart),
      ("postStart", Json.nonEmpty? .string events.postStart)]

def Metadata.toJson (metadata : Metadata) : Json :=
  Json.ofFields [("name", metadata.name.map .string)]

def Devfile.toJson (devfile : Devfile) : Json :=
  Json.ofFields
    [("schemaVersion", devfile.schemaVersion.map .string),
      ("metadata", some devfile.metadata.toJson),
      ("projects", Json.nonEmpty? Project.toJson devfile.projects),
      ("components", Json.nonEmpty? Component.toJson devfile.components),
      ("commands", Json.nonEmpty? Command.toJson devfile.commands),
      ("events", some devfile.events.toJson)]

end DevfilePush
