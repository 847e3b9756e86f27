import DevfilePush.Kubernetes.Object
import DevfilePush.Text.Integer

/-!
Reading cluster objects from JSON.

Unknown fields are passed over, and a field that is null is not there. A field of the
wrong type makes the whole object unreadable, as does an object that says it is of
another kind. Every reader answers `none` in that case.
-/

namespace DevfilePush.Kubernetes

/-! ### Fields -/

/-- The field `key`, unless it is null. -/
def field? (key : String) (json : Json) : Option Json :=
  match json.get? key with
  | some .null => none
  | value => value

/-- Reads the field `key` if it is there. -/
def optional {α : Type} (read : Json → Option α) (key : String) (json : Json) :
    Option (Option α) :=
  match field? key json with
  | none => some none
  | some value => some <$> read value

/-- Reads the field `key`, which has a default. -/
def withDefault {α : Type} (read : Json → Option α) (fallback : α) (key : String) (json : Json) :
    Option α :=
  match field? key json with
  | none => some fallback
  | some value => read value

/-- Refuses what is no object. -/
def requireObject : Json → Option Unit
  | .object _ => some ()
  | _ => none

def readText : Json → Option String
  | .string text => some text
  | _ => none

def readBool : Json → Option Bool
  | .bool value => some value
  | _ => none

/-- An integer of 32 bits. -/
def readInt32 : Json → Option Int
  | .integer n => if Text.Integer.fitsSigned 32 n then some n else none
  | _ => none

def readList {α : Type} (read : Json → Option α) : Json → Option (List α)
  | .array items => items.mapM read
  | _ => none

def readTextMap : Json → Option TextMap
  | .object members => TextMap.ofList <$> members.mapM fun member =>
      (fun text => (member.1, text)) <$> readText member.2
  | _ => none

/-- Refuses an object of another kind or version. One that says neither may be of any. -/
def requireType (apiVersion kind : String) (json : Json) : Option Unit := do
  requireObject json
  guard ((json.get? "apiVersion").all (· == .string apiVersion))
  guard ((json.get? "kind").all (· == .string kind))

/-! ### Metadata -/

/-- Whether `text` is a time in the form `2024-01-02T03:04:05Z`. -/
def isTimestamp (text : String) : Bool :=
  let shape := text.toList.map fun c => if c.isDigit then '0' else c
  let number := fun start length =>
    ((text.toList.drop start).take length).foldl (fun n c => n * 10 + (c.toNat - '0'.toNat)) 0
  String.ofList shape = "0000-00-00T00:00:00Z" &&
    (1 ≤ number 5 2 && number 5 2 ≤ 12) && (1 ≤ number 8 2 && number 8 2 ≤ 31) &&
    number 11 2 < 24 && number 14 2 < 60 && number 17 2 ≤ 60

def readTimestamp (json : Json) : Option String :=
  (readText json).filter isTimestamp

def readMetadata (json : Json) : Option Metadata := do
  requireObject json
  return {
    name := ← optional readText "name" json
    labels := ← optional readTextMap "labels" json
    resourceVersion := ← optional readText "resourceVersion" json
    deletionTimestamp := ← optional readTimestamp "deletionTimestamp" json }

/-- The metadata of an object; an object without any has empty metadata. -/
def metadataOf (json : Json) : Option Metadata :=
  withDefault readMetadata {} "metadata" json

/-! ### Containers and volumes -/

def readEnvVar (json : Json) : Option EnvVar := do
  requireObject json
  return ⟨← withDefault readText "" "name" json, ← optional readText "value" json⟩

def readContainerPort (json : Json) : Option ContainerPort := do
  requireObject json
  return {
    containerPort := ← withDefault readInt32 0 "containerPort" json
    name := ← optional readText "name" json
    protocol := ← optional readText "protocol" json }

def readVolumeMount (json : Json) : Option VolumeMount := do
  requireObject json
  return ⟨← withDefault readText "" "name" json, ← withDefault readText "" "mountPath" json⟩

def readResources (json : Json) : Option Resources := do
  requireObject json
  return ⟨← optional readTextMap "limits" json, ← optional readTextMap "requests" json⟩

def readSecurityContext (json : Json) : Option SecurityContext := do
  requireObject json
  return ⟨← optional readBool "privileged" json⟩

def readContainer (json : Json) : Option Container := do
  requireObject json
  return {
    name := ← withDefault readText "" "name" json
    image := ← optional readText "image" json
    command := ← optional (readList readText) "command" json
    args := ← optional (readList readText) "args" json
    env := ← optional (readList readEnvVar) "env" json
    ports := ← optional (readList readContainerPort) "ports" json
    resources := ← optional readResources "resources" json
    securityContext := ← optional readSecurityContext "securityContext" json
    volumeMounts := ← optional (readList readVolumeMount) "volumeMounts" json }

/-- The name of the claim behind a volume. -/
def readClaimSource (json : Json) : Option VolumeSource := do
  requireObject json
  return .claim (← withDefault readText "" "claimName" json)

def readVolume (json : Json) : Option Volume := do
  requireObject json
  let directory ← optional requireObject "emptyDir" json
  let claim ← optional readClaimSource "persistentVolumeClaim" json
  return {
    name := ← withDefault readText "" "name" json
    source := claim.or (directory.map fun _ => .emptyDir) }

/-! ### Objects -/

def readPodSpec (json : Json) : Option PodSpec := do
  requireObject json
  return {
    containers := ← withDefault (readList readContainer) [] "containers" json
    initContainers := ← optional (readList readContainer) "initContainers" json
    volumes := ← optional (readList readVolume) "volumes" json }

def readPodTemplate (json : Json) : Option PodTemplate := do
  requireObject json
  return ⟨← optional readMetadata "metadata" json, ← optional readPodSpec "spec" json⟩

/-- The labels of a selector. -/
def readSelector (json : Json) : Option (Option Labels) := do
  requireObject json
  optional readTextMap "matchLabels" json

/-- The kind of a strategy. -/
def readStrategy (json : Json) : Option (Option String) := do
  requireObject json
  optional readText "type" json

def readDeploymentSpec (json : Json) : Option DeploymentSpec := do
  requireObject json
  return {
    replicas := ← optional readInt32 "replicas" json
    matchLabels := ← withDefault readSelector none "selector" json
    strategy := ← optional readStrategy "strategy" json
    template := ← withDefault readPodTemplate {} "template" json }

def readDeployment (json : Json) : Option Deployment := do
  requireType Deployment.apiVersion Deployment.kind json
  return ⟨← metadataOf json, ← optional readDeploymentSpec "spec" json⟩

def readPortRef : Json → Option PortRef
  | .string name => some (.name name)
  | json => .number <$> readInt32 json

def readServicePort (json : Json) : Option ServicePort := do
  requireObject json
  return {
    port := ← withDefault readInt32 0 "port" json
    name := ← optional readText "name" json
    protocol := ← optional readText "protocol" json
    targetPort := ← optional readPortRef "targetPort" json }

def readServiceSpec (json : Json) : Option ServiceSpec := do
  requireObject json
  return {
    clusterIP := ← optional readText "clusterIP" json
    clusterIPs := ← optional (readList readText) "clusterIPs" json
    ports := ← optional (readList readServicePort) "ports" json
    selector := ← optional readTextMap "selector" json }

def readService (json : Json) : Option Service := do
  requireType Service.apiVersion Service.kind json
  return ⟨← metadataOf json, ← optional readServiceSpec "spec" json⟩

def readClaimSpec (json : Json) : Option ClaimSpec := do
  requireObject json
  return {
    accessModes := ← optional (readList readText) "accessModes" json
    resources := ← optional readResources "resources" json }

def readClaim (json : Json) : Option Claim := do
  requireType Claim.apiVersion Claim.kind json
  return ⟨← metadataOf json, ← optional readClaimSpec "spec" json⟩

def readPodStatus (json : Json) : Option PodStatus := do
  requireObject json
  return ⟨← optional readText "phase" json⟩

def readPod (json : Json) : Option Pod := do
  requireType Pod.apiVersion Pod.kind json
  return ⟨← metadataOf json, ← optional readPodStatus "status" json⟩

/-! ### Lists -/

/-- One page of a list of objects. -/
structure Page (α : Type) where
  items : List α
  /-- The version of the list as a whole. -/
  resourceVersion : Option String
  /-- What to ask for the next page with. -/
  next : Option String

/-- Reads a page. It has to have items, though these may be null; its metadata may be
left out but not be null. -/
def readPage {α : Type} (read : Json → Option α) (json : Json) : Option (Page α) := do
  let items ← json.get? "items"
  let items ← match items with
    | .null => some []
    | items => readList read items
  let metadata := (json.get? "metadata").getD (.object [])
  requireObject metadata
  return ⟨items, ← optional readText "resourceVersion" metadata,
    ← optional readText "continue" metadata⟩

end DevfilePush.Kubernetes
