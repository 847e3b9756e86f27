import DevfilePush.Cluster.InMemory

/-!
A cluster in memory with a script: pods that appear while somebody waits, and a recorded
watch that takes the place of the next real one.
-/

namespace DevfilePush

open Kubernetes (Pod)

/-- A cluster in memory and what is to happen to it. -/
structure ScriptedCluster where
  cluster : MemoryCluster
  /-- Pods to come, with the milliseconds of waiting after which they do. -/
  arrivals : List (Nat × Pod)
  /-- The events that the next watch reports before it ends. -/
  replay : Option (List PodEvent)

namespace ScriptedCluster

/-- Work on the cluster alone. -/
def onCluster {α : Type} (work : StateM MemoryCluster α) : StateM ScriptedCluster α :=
  fun script =>
    let (result, cluster) := work script.cluster
    (result, { script with cluster := cluster })

/-- An operation on the cluster alone. -/
def operate {α : Type} (work : Session MemoryCluster α) : Session ScriptedCluster α :=
  ExceptT.mk (onCluster work.run)

/-- The pods to come, in the order in which they do. -/
def schedule (script : ScriptedCluster) : List (Nat × Pod) :=
  script.arrivals.mergeSort fun a b => a.1 ≤ b.1

/-- Opens a watch. -/
def watchPods (selector : String) : Session ScriptedCluster PodWatch := do
  let watch ← operate (MemoryCluster.client.watchPods selector)
  let script ← get
  match script.replay with
  | some events =>
    set { script with replay := none }
    return ⟨events, [], true⟩
  | none =>
    let coming := script.schedule.filter fun arrival =>
      matchesSelector arrival.2.metadata.labels selector
    return { watch with later := coming.map fun arrival => (arrival.1, .observed arrival.2) }

/-- Lets the pods of the first `waited` milliseconds appear and ends the watch. -/
def endWatch (waited : Nat) : StateM ScriptedCluster Unit := do
  modify fun script =>
    let (due, coming) := script.schedule.partition fun arrival => arrival.1 < waited
    { script with
      cluster := due.foldl (fun cluster arrival => cluster.addPod arrival.2) script.cluster
      arrivals := coming }
  onCluster (MemoryCluster.client.endWatch waited)

/-- The client of a scripted cluster. -/
def client : ClusterClient ScriptedCluster where
  listDeployments selector := operate (MemoryCluster.client.listDeployments selector)
  createDeployment deployment := operate (MemoryCluster.client.createDeployment deployment)
  replaceDeployment deployment := operate (MemoryCluster.client.replaceDeployment deployment)
  deleteDeployment name := operate (MemoryCluster.client.deleteDeployment name)
  getService name := operate (MemoryCluster.client.getService name)
  createService service := operate (MemoryCluster.client.createService service)
  replaceService service := operate (MemoryCluster.client.replaceService service)
  deleteService name := operate (MemoryCluster.client.deleteService name)
  getClaim name := operate (MemoryCluster.client.getClaim name)
  createClaim claim := operate (MemoryCluster.client.createClaim claim)
  listPods selector := operate (MemoryCluster.client.listPods selector)
  deletePod name := operate (MemoryCluster.client.deletePod name)
  watchPods := watchPods
  endWatch := endWatch
  exec pod container program := onCluster (MemoryCluster.client.exec pod container program)

end ScriptedCluster

end DevfilePush
