import DevfilePush.Devfile.Basic
import DevfilePush.Kubernetes.Object

/-!
The ports of a component and the Service that exposes them.

Endpoints with the same port are one port of the component. It is as open as the most
open of them, and a port that all of them hide is not part of the Service.
-/

namespace DevfilePush

/-- A port of a component, with all endpoints that declare it. -/
structure AggregatedPort where
  port : Int
  /-- The transport of the first endpoint. -/
  protocol : String
  exposure : Exposure
  /-- The names of the endpoints, in order of declaration. -/
  endpoints : List String
  deriving DecidableEq, Repr

namespace AggregatedPort

/-- The port of a single endpoint. -/
def ofEndpoint (endpoint : Endpoint) : AggregatedPort :=
  ⟨endpoint.targetPort, endpoint.protocol.transport, endpoint.exposure, [endpoint.name]⟩

/-- The port with a further endpoint. -/
def merge (port : AggregatedPort) (endpoint : Endpoint) : AggregatedPort :=
  { port with
    exposure :=
      if port.exposure.rank < endpoint.exposure.rank then endpoint.exposure else port.exposure
    endpoints := port.endpoints ++ [endpoint.name] }

/-- The name of the port in the Service. -/
def serviceName (port : AggregatedPort) : String :=
  "port-" ++ toString port.port

/-- Adds an endpoint to the port that it declares, or as a port of its own at the end. -/
def add (endpoint : Endpoint) : List AggregatedPort → List AggregatedPort
  | [] => [ofEndpoint endpoint]
  | port :: rest =>
    if port.port = endpoint.targetPort then port.merge endpoint :: rest
    else port :: add endpoint rest

def toJson (port : AggregatedPort) : Json :=
  .object
    [("port", .integer port.port),
      ("protocol", .string port.protocol),
      ("exposure", .string port.exposure.name),
      ("endpoints", Json.ofStrings port.endpoints)]

/-- The port as a port of the Service. -/
def servicePort (port : AggregatedPort) : Kubernetes.ServicePort :=
  { port := port.port
    name := some port.serviceName
    protocol := some port.protocol
    targetPort := some (.number port.port) }

end AggregatedPort

namespace Devfile

/-- All endpoints, container by container. -/
def endpoints (devfile : Devfile) : List Endpoint :=
  devfile.containers.flatMap fun container => container.2.endpoints

/-- The ports of the component, in the order in which they are first declared. -/
def aggregatedPorts (devfile : Devfile) : List AggregatedPort :=
  devfile.endpoints.foldl (fun ports endpoint => AggregatedPort.add endpoint ports) []

/-- The ports that the Service exposes. -/
def servicePorts (devfile : Devfile) : List Kubernetes.ServicePort :=
  (devfile.aggregatedPorts.filter fun port => port.exposure ≠ .hidden).map
    AggregatedPort.servicePort

/-- The Service of the component; none if no port is exposed. -/
def synthesizeService (devfile : Devfile) (name : String) (labels : Labels) :
    Option Kubernetes.Service :=
  let ports := devfile.servicePorts
  if ports.isEmpty then none
  else
    some
      { metadata := .named name labels
        spec := some { ports := some ports, selector := some labels } }

end Devfile

end DevfilePush
