import DevfilePush.Collection.TextMap
import DevfilePush.Json.Basic

/-!
The metadata that all cluster objects carry.

Absent parts stay absent: they are left out where an object is written, and an object
with an empty part differs from one without it.
-/

namespace DevfilePush

/-- Labels of a cluster object. -/
abbrev Labels := TextMap

def TextMap.toJson (map : TextMap) : Json :=
  .object (map.entries.map fun entry => (entry.1, .string entry.2))

namespace Kubernetes

/-- Metadata of a cluster object. -/
structure Metadata where
  name : Option String := none
  labels : Option Labels := none
  /-- The version that a write has to be based on. -/
  resourceVersion : Option String := none
  /-- When the object began to be deleted. -/
  deletionTimestamp : Option String := none
  deriving DecidableEq, Repr

/-- The object's name, empty where it has none. -/
def Metadata.nameOrEmpty (metadata : Metadata) : String :=
  metadata.name.getD ""

/-- Metadata with a name and labels. -/
def Metadata.named (name : String) (labels : Labels) : Metadata :=
  { name := some name, labels := some labels }

def Metadata.toJson (metadata : Metadata) : Json :=
  Json.ofFields
    [("deletionTimestamp", metadata.deletionTimestamp.map .string),
      ("labels", metadata.labels.map TextMap.toJson),
      ("name", metadata.name.map .string),
      ("resourceVersion", metadata.resourceVersion.map .string)]

end Kubernetes

end DevfilePush
