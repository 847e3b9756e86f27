import DevfilePush.Api.Playback
import DevfilePush.Cluster.Client
import DevfilePush.Text.Blank

/-!
Watching pods through the API.

A watch first asks for the list of pods, page by page, and then for the changes since
the version of the list. When the changes end it asks again, from the last version
seen. A failure is reported and the watch goes on; after one that makes the version
useless it starts over with the list.
-/

namespace DevfilePush.Api

open Kubernetes (Page Pod)

/-- What a watch is going to ask for. -/
inductive WatchPhase where
  /-- A page of the list. -/
  | listing (next : Option String)
  /-- The changes since a version. -/
  | following (version : String)
  deriving DecidableEq, Repr

/-- A failure of the watch. -/
def watchFailure : PodEvent :=
  .failed (.cluster (.watch none))

/-- A text, unless it is empty. -/
def nonEmptyText? (text : Option String) : Option String :=
  text.filter fun text => text ≠ ""

/-- What a page of the list reports, and how the watch goes on. -/
def readListing (reply : Reply) : List PodEvent × WatchPhase :=
  match reply.read (Kubernetes.readPage Kubernetes.readPod) with
  | .error _ => ([watchFailure], .listing none)
  | .ok page =>
    match nonEmptyText? page.next, nonEmptyText? page.resourceVersion with
    | some next, _ => (page.items.map .observed, .listing (some next))
    | none, some version => (page.items.map .observed, .following version)
    | none, none => ([watchFailure], .listing none)

/-! ### Changes -/

/-- A change to the pods. -/
inductive Change where
  /-- A pod is there or has changed. -/
  | applied (pod : Pod)
  | deleted (pod : Pod)
  /-- Nothing has happened up to a version. -/
  | bookmark (version : String)
  | refused (refusal : Refusal)
  deriving DecidableEq, Repr

namespace Change

/-- The version of a bookmark. -/
def readBookmark (json : Json) : Option String := do
  let _ ← Kubernetes.readText (← json.get? "apiVersion")
  let _ ← Kubernetes.readText (← json.get? "kind")
  Kubernetes.readText (← (← json.get? "metadata").get? "resourceVersion")

def read (json : Json) : Option Change := do
  let object ← json.get? "object"
  match ← json.get? "type" with
  | .string "ADDED" => applied <$> Kubernetes.readPod object
  | .string "MODIFIED" => applied <$> Kubernetes.readPod object
  | .string "DELETED" => deleted <$> Kubernetes.readPod object
  | .string "BOOKMARK" => bookmark <$> readBookmark object
  | .string "ERROR" => refused <$> Refusal.read object
  | _ => none

/-- The change in a line of a reply: none for a line that breaks off, and an error for
one that says something else. -/
def ofLine (line : String) : Except Unit (Option Change) :=
  match Json.read line with
  | .error .truncated => .ok none
  | .error .malformed => .error ()
  | .ok json =>
    match read json with
    | some change => .ok (some change)
    | none => .error ()

end Change

/-- The code of a refusal because the version is too old. -/
def goneCode : Nat := 410

/-- A pod that has changed, at its version; one without a version is a failure. -/
def follow (pod : Pod) (events : List PodEvent) : List PodEvent × WatchPhase :=
  match nonEmptyText? pod.metadata.resourceVersion with
  | some version => (events, .following version)
  | none => ([watchFailure], .listing none)

/-- What a line reports to a watch that has seen `version`, and how the watch goes on. -/
def readChange (version line : String) : List PodEvent × WatchPhase :=
  match Change.ofLine line with
  | .error () => ([watchFailure], .following version)
  | .ok none => ([], .following version)
  | .ok (some (.applied pod)) => follow pod [.observed pod]
  | .ok (some (.deleted pod)) => follow pod []
  | .ok (some (.bookmark next)) => ([], .following next)
  | .ok (some (.refused refusal)) =>
    ([watchFailure],
      if refusal.code = goneCode then .listing none else .following version)

/-- What lines report, and how the watch goes on after them. The rest of the lines does
not count once the watch starts over. -/
def readChanges (version : String) : List String → List PodEvent × WatchPhase
  | [] => ([], .following version)
  | line :: rest =>
    match readChange version line with
    | (events, .following version) =>
      let (later, phase) := readChanges version rest
      (events ++ later, phase)
    | (events, .listing next) => (events, .listing next)

/-- A line without a carriage return at its end. -/
def dropReturn (line : List Char) : List Char :=
  if line.getLast? = some '\r' then line.dropLast else line

/-- The lines of a text, without line ends. What follows the last line feed is a line
unless it is empty. -/
def textLines (text : String) : List String :=
  let lines := (Text.pieces '\n' text.toList).map dropReturn
  (if lines.getLast? = some [] then lines.dropLast else lines).map String.ofList

/-! ### The watch -/

namespace WatchPhase

/-- The request that the watch makes. -/
def request (space selector : String) : WatchPhase → Request
  | listing next => Request.podPage space selector next
  | following version => Request.podChanges space selector version

/-- What a reply reports, and how the watch goes on. -/
def readReply (phase : WatchPhase) (reply : Reply) : List PodEvent × WatchPhase :=
  match phase, reply with
  | listing _, reply => readListing reply
  | following version, .body _ text => readChanges version (textLines text)
  | following version, .stream _ => ([watchFailure], .following version)

end WatchPhase

/-- Everything that a watch reports until the connection has no more replies for it. -/
def runWatch (space selector : String) (phase : WatchPhase) (playback : Playback) :
    List PodEvent × Playback :=
  let request := phase.request space selector
  let requests := playback.requests ++ [request]
  match _taken : takeReply? request.address playback.replies with
  | none => ([], { playback with requests })
  | some (reply, rest) =>
    let (events, phase) := phase.readReply reply
    let (later, playback) :=
      runWatch space selector phase { playback with replies := rest, requests }
    (events ++ later, playback)
  termination_by playback.replies.length
  decreasing_by exact length_of_takeReply? ‹_›

/-- Watches the pods that match a selector. Nothing is asked on a silent connection. -/
def watchPods (space selector : String) : StateM Playback (List PodEvent) :=
  fun playback =>
    if playback.silent then ([], playback)
    else runWatch space selector (.listing none) playback

end DevfilePush.Api
