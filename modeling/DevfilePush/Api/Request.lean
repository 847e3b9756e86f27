import DevfilePush.Json.Basic
import DevfilePush.Kubernetes.Object

/-!
Requests to the API of a cluster.

Objects of one kind and namespace form a resource, which has a path of its own.
Requests work on the whole resource or, with a name behind the path, on one object of
it. A watch is a request of its own kind here, and so is running a program in a pod.
-/

namespace DevfilePush.Api

/-- What a request asks for. -/
inductive Verb where
  | get
  | post
  | put
  | delete
  | watch
  | exec
  deriving DecidableEq, Repr

def Verb.name : Verb → String
  | get => "GET"
  | post => "POST"
  | put => "PUT"
  | delete => "DELETE"
  | watch => "WATCH"
  | exec => "EXEC"

/-- A request. -/
structure Request where
  verb : Verb
  path : String
  /-- The parameters, in the order of their names. -/
  query : List (String × String) := []
  body : Option Json := none

/-- What a request is told apart by when it is answered: its verb and its path. -/
def Request.address (request : Request) : String :=
  request.verb.name ++ " " ++ request.path

def Request.toJson (request : Request) : Json :=
  .object
    [("on", .string request.address),
      ("query", .array (request.query.map fun entry => Json.ofStrings [entry.1, entry.2])),
      ("body", request.body.getD .null)]

/-- The kinds of objects that a client works with. -/
inductive Resource where
  | deployments
  | services
  | claims
  | pods
  deriving DecidableEq, Repr

namespace Resource

/-- The path of the API group that the kind belongs to. -/
def group : Resource → String
  | deployments => "/apis/apps/v1"
  | _ => "/api/v1"

/-- The name of the resource in a path. -/
def name : Resource → String
  | deployments => "deployments"
  | services => "services"
  | claims => "persistentvolumeclaims"
  | pods => "pods"

/-- The path of the resource in a namespace. -/
def path (resource : Resource) (space : String) : String :=
  resource.group ++ "/namespaces/" ++ space ++ "/" ++ resource.name

/-- The path of one object. -/
def pathOf (resource : Resource) (space object : String) : String :=
  resource.path space ++ "/" ++ object

end Resource

namespace Request

/-- Asks for all objects that match a selector. -/
def list (space : String) (resource : Resource) (selector : String) : Request :=
  { verb := .get, path := resource.path space, query := [("labelSelector", selector)] }

/-- Asks for one object. -/
def get (space : String) (resource : Resource) (object : String) : Request :=
  { verb := .get, path := resource.pathOf space object }

def create (space : String) (resource : Resource) (body : Json) : Request :=
  { verb := .post, path := resource.path space, body := some body }

def replace (space : String) (resource : Resource) (object : String) (body : Json) : Request :=
  { verb := .put, path := resource.pathOf space object, body := some body }

def delete (space : String) (resource : Resource) (object : String) : Request :=
  { verb := .delete, path := resource.pathOf space object, body := some (.object []) }

/-- How many objects a page of a list may hold. -/
def pageSize : Nat := 500

/-- Asks for a page of the pods that match a selector. -/
def podPage (space selector : String) (next : Option String) : Request :=
  { verb := .get
    path := Resource.pods.path space
    query := next.toList.map (fun token => ("continue", token)) ++
      [("labelSelector", selector), ("limit", toString pageSize)] }

/-- How many seconds a watch is to last. -/
def watchSeconds : Nat := 290

/-- Asks for the changes to the pods that match a selector since a version. -/
def podChanges (space selector version : String) : Request :=
  { verb := .watch
    path := Resource.pods.path space
    query := [("allowWatchBookmarks", "true"), ("labelSelector", selector),
      ("resourceVersion", version), ("timeoutSeconds", toString watchSeconds),
      ("watch", "true")] }

/-- Runs a program in a container of a pod. -/
def exec (space pod container : String) (program : List String) : Request :=
  { verb := .exec
    path := Resource.pods.pathOf space pod ++ "/exec"
    query := program.map (fun word => ("command", word)) ++
      [("container", container), ("stdout", "true")] }

end Request

end DevfilePush.Api
