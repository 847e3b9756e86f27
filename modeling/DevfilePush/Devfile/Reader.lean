import DevfilePush.Devfile.Basic
import DevfilePush.Failure
import DevfilePush.Yaml.Decoder
import DevfilePush.Yaml.Node.Composer

/-!
Reading a devfile.

Each record is read key by key; keys that mean nothing here are passed over. Only what
the types themselves say is checked: a command is exactly one of exec and composite, a
component exactly one of container and volume.
-/

namespace DevfilePush

open Yaml

def GroupKind.decode (node : Node) : Decode GroupKind :=
  Decode.word GroupKind.ofName? node

def Exposure.decode (node : Node) : Decode Exposure :=
  Decode.word Exposure.ofName? node

def EndpointProtocol.decode (node : Node) : Decode EndpointProtocol :=
  Decode.word EndpointProtocol.ofName? node

def CommandGroup.decode : Node → Decode CommandGroup :=
  Decode.record ["kind"] { kind := .init } fun
    | "kind" => some fun node group => return { group with kind := ← GroupKind.decode node }
    | "isDefault" => some fun node group => return { group with isDefault := ← Decode.bool node }
    | _ => none

def EnvVar.decode : Node → Decode EnvVar :=
  Decode.record ["name"] { name := "" } fun
    | "name" => some fun node var => return { var with name := ← Decode.text node }
    | "value" => some fun node var => return { var with value := ← Decode.text node }
    | _ => none

def ExecBody.decode : Node → Decode ExecBody :=
  Decode.record [] {} fun
    | "component" => some fun node body => return { body with component := ← Decode.text node }
    | "commandLine" => some fun node body =>
      return { body with commandLine := ← Decode.text node }
    | "workingDir" => some fun node body =>
      return { body with workingDir := ← Decode.optional Decode.text node }
    | "env" => some fun node body => return { body with env := ← Decode.list EnvVar.decode node }
    | "group" => some fun node body =>
      return { body with group := ← Decode.optional CommandGroup.decode node }
    | _ => none

def CompositeBody.decode : Node → Decode CompositeBody :=
  Decode.record [] {} fun
    | "commands" => some fun node body =>
      return { body with commands := ← Decode.list Decode.text node }
    | "group" => some fun node body =>
      return { body with group := ← Decode.optional CommandGroup.decode node }
    | "parallel" => some fun node body => return { body with parallel := ← Decode.bool node }
    | _ => none

/-- The keys of a command, before it is known to have one body. -/
structure CommandFields where
  id : String := ""
  exec : Option ExecBody := none
  composite : Option CompositeBody := none

/-- The command with the one body that is there. -/
def CommandFields.command? (fields : CommandFields) : Option Command :=
  match fields.exec, fields.composite with
  | some body, none => some ⟨fields.id, .exec body⟩
  | none, some body => some ⟨fields.id, .composite body⟩
  | _, _ => none

def CommandFields.decode : Node → Decode CommandFields :=
  Decode.record ["id"] {} fun
    | "id" => some fun node fields => return { fields with id := ← Decode.text node }
    | "exec" => some fun node fields =>
      return { fields with exec := ← Decode.optional ExecBody.decode node }
    | "composite" => some fun node fields =>
      return { fields with composite := ← Decode.optional CompositeBody.decode node }
    | _ => none

def Command.decode (node : Node) : Decode Command := do
  match (← CommandFields.decode node).command? with
  | some command => return command
  | none => throw (.refused "command must be of type exec or composite")

def Endpoint.decode : Node → Decode Endpoint :=
  Decode.record ["name", "targetPort"] { name := "", targetPort := 0 } fun
    | "name" => some fun node endpoint => return { endpoint with name := ← Decode.text node }
    | "targetPort" => some fun node endpoint =>
      return { endpoint with targetPort := ← Decode.int32 node }
    | "exposure" => some fun node endpoint =>
      return { endpoint with exposure := ← Exposure.decode node }
    | "protocol" => some fun node endpoint =>
      return { endpoint with protocol := ← EndpointProtocol.decode node }
    | "secure" => some fun node endpoint => return { endpoint with secure := ← Decode.bool node }
    | "path" => some fun node endpoint =>
      return { endpoint with path := ← Decode.optional Decode.text node }
    | _ => none

def VolumeMountRef.decode : Node → Decode VolumeMountRef :=
  Decode.record ["name"] { name := "" } fun
    | "name" => some fun node mount => return { mount with name := ← Decode.text node }
    | "path" => some fun node mount =>
      return { mount with path := ← Decode.optional Decode.text node }
    | _ => none

def ContainerBody.decode : Node → Decode ContainerBody :=
  Decode.record ["image"] { image := "" } fun
    | "image" => some fun node body => return { body with image := ← Decode.text node }
    | "command" => some fun node body =>
      return { body with command := ← Decode.list Decode.text node }
    | "args" => some fun node body => return { body with args := ← Decode.list Decode.text node }
    | "env" => some fun node body => return { body with env := ← Decode.list EnvVar.decode node }
    | "endpoints" => some fun node body =>
      return { body with endpoints := ← Decode.list Endpoint.decode node }
    | "memoryLimit" => some fun node body =>
      return { body with memoryLimit := ← Decode.optional Decode.text node }
    | "mountSources" => some fun node body =>
      return { body with mountSources := ← Decode.optional Decode.bool node }
    | "sourceMapping" => some fun node body =>
      return { body with sourceMapping := ← Decode.optional Decode.text node }
    | "volumeMounts" => some fun node body =>
      return { body with volumeMounts := ← Decode.list VolumeMountRef.decode node }
    | _ => none

def VolumeBody.decode : Node → Decode VolumeBody :=
  Decode.record [] {} fun
    | "size" => some fun node body =>
      return { body with size := ← Decode.optional Decode.text node }
    | _ => none

/-- The keys of a component, before it is known to have one body. -/
structure ComponentFields where
  name : String := ""
  container : Option ContainerBody := none
  volume : Option VolumeBody := none

/-- The component with the one body that is there. -/
def ComponentFields.component? (fields : ComponentFields) : Option Component :=
  match fields.container, fields.volume with
  | some body, none => some ⟨fields.name, .container body⟩
  | none, some body => some ⟨fields.name, .volume body⟩
  | _, _ => none

def ComponentFields.decode : Node → Decode ComponentFields :=
  Decode.record ["name"] {} fun
    | "name" => some fun node fields => return { fields with name := ← Decode.text node }
    | "container" => some fun node fields =>
      return { fields with container := ← Decode.optional ContainerBody.decode node }
    | "volume" => some fun node fields =>
      return { fields with volume := ← Decode.optional VolumeBody.decode node }
    | _ => none

def Component.decode (node : Node) : Decode Component := do
  let fields ← ComponentFields.decode node
  match fields.component? with
  | some component => return component
  | none => throw (.refused s!"component {fields.name} must be of type container or volume")

def Project.decode : Node → Decode Project :=
  Decode.record ["name"] { name := "" } fun
    | "name" => some fun node project => return { project with name := ← Decode.text node }
    | "clonePath" => some fun node project =>
      return { project with clonePath := ← Decode.optional Decode.text node }
    | _ => none

def Events.decode : Node → Decode Events :=
  Decode.record [] {} fun
    | "preStart" => some fun node events =>
      return { events with preStart := ← Decode.list Decode.text node }
    | "postStart" => some fun node events =>
      return { events with postStart := ← Decode.list Decode.text node }
    | _ => none

def Metadata.decode : Node → Decode Metadata :=
  Decode.record [] {} fun
    | "name" => some fun node _ => return { name := ← Decode.optional Decode.text node }
    | _ => none

def Devfile.decode : Node → Decode Devfile :=
  Decode.record [] {} fun
    | "schemaVersion" => some fun node devfile =>
      return { devfile with schemaVersion := ← Decode.optional Decode.text node }
    | "metadata" => some fun node devfile =>
      return { devfile with metadata := ← Metadata.decode node }
    | "projects" => some fun node devfile =>
      return { devfile with projects := ← Decode.list Project.decode node }
    | "components" => some fun node devfile =>
      return { devfile with components := ← Decode.list Component.decode node }
    | "commands" => some fun node devfile =>
      return { devfile with commands := ← Decode.list Command.decode node }
    | "events" => some fun node devfile => return { devfile with events := ← Events.decode node }
    | _ => none

/-- The devfile that a document holds. -/
def Devfile.ofDocument (document : Document) : Except ConfigError Devfile :=
  match document.decode Devfile.decode with
  | .ok devfile => .ok devfile
  | .error .malformed => .error (.parsing "devfile" none)
  | .error (.refused reason) => .error (.parsing "devfile" (some reason))

/-- The devfile that a text holds. -/
def Devfile.ofText (text : String) : Except ConfigError Devfile :=
  Devfile.ofDocument (Document.ofText text)

end DevfilePush
