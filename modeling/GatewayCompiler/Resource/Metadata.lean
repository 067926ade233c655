import GatewayCompiler.Document.Encode
import GatewayCompiler.Document.Decode
import GatewayCompiler.Identity
import GatewayCompiler.Text.Blank
import GatewayCompiler.Text.Integer

/-!
# Metadata and annotations

Every resource has a name, a namespace and annotations.  Annotations carry settings that have no
field of their own; a number that cannot be read counts as zero, which stands for unset.

## Main definitions

* `Metadata` — name, namespace and annotations, with `Metadata.identity`.
* `Metadata.decode`, `Metadata.encode` — the metadata from a node and as a node.
* `Metadata.annotation`, `Metadata.number` — the text and the number of an annotation.
* `ingressClass`, `httpAllowed`, `tlsRequired`, `websocketRoutes` — readers of single annotations.
-/

namespace GatewayCompiler

open Document

/-- The name, the namespace and the annotations of a resource. -/
structure Metadata where
  /-- The name. -/
  name : Option String := none
  /-- The namespace. -/
  space : Option String := none
  /-- The annotations. -/
  annotations : Option (OrderedMap String String) := none

namespace Metadata

/-- The namespace of a resource that names none. -/
def defaultNamespace : String := "default"

/-- `m.identity` is the identity of the resource, in `defaultNamespace` where it names no
namespace. -/
def identity (m : Metadata) : Identity := ⟨m.space.getD defaultNamespace, m.name.getD ""⟩

/-- `Metadata.decode node` are the metadata written by `node`. -/
def decode (node : Node) : Decode Metadata := do
  let fields ← Decode.openRecord node
  return {
    name := ← fields.optional "name" Decode.text
    space := ← fields.optional "namespace" Decode.text
    annotations := (← fields.optional "annotations" Decode.texts).map OrderedMap.ofList }

/-- `m.encode` are the metadata as a node, with the fields that are set. -/
def encode (m : Metadata) : Node :=
  .record (((m.name.map fun x => ("name", Node.text x)).toList
    ++ (m.space.map fun x => ("namespace", Node.text x)).toList)
    ++ (m.annotations.map fun x =>
      ("annotations", Node.record (x.toList.map fun p => (p.1, .text p.2)))).toList)

/-- `m.annotation key` is the text of an annotation. -/
def annotation (m : Metadata) (key : String) : Option String :=
  m.annotations.bind (·.find? key)

/-- `m.number key` is the number in an annotation; zero without one. -/
def number (m : Metadata) (key : String) : Nat :=
  match m.annotation key with
  | none => 0
  | some value => (Text.natBelow Text.limit32 (Text.trim value)).toOption.getD 0

end Metadata

namespace Annotation

/-- Greatest number of connections to a service. -/
def maxConnections : String := "switchyard.io/max-connections"
/-- Greatest number of requests that wait for a service. -/
def maxPendingRequests : String := "switchyard.io/max-pending-requests"
/-- Greatest number of requests that a service handles at a time. -/
def maxRequests : String := "switchyard.io/max-requests"
/-- Greatest number of retries towards a service at a time. -/
def maxRetries : String := "switchyard.io/max-retries"
/-- Ports that speak HTTP/2 over TLS. -/
def protocolH2 : String := "switchyard.io/upstream-protocol.h2"
/-- Ports that speak HTTP/2 in plain text. -/
def protocolH2c : String := "switchyard.io/upstream-protocol.h2c"
/-- Ports that speak TLS. -/
def protocolTls : String := "switchyard.io/upstream-protocol.tls"
/-- Time for a whole response. -/
def requestTimeout : String := "switchyard.io/request-timeout"
/-- Conditions of a retry. -/
def retryOn : String := "switchyard.io/retry-on"
/-- Number of retries. -/
def numRetries : String := "switchyard.io/num-retries"
/-- Time for one attempt. -/
def perTryTimeout : String := "switchyard.io/per-try-timeout"
/-- Paths that may be upgraded to websockets. -/
def websocketRoutes : String := "switchyard.io/websocket-routes"
/-- Lowest TLS version of a host. -/
def minTlsVersion : String := "switchyard.io/tls-minimum-protocol-version"
/-- Class of an ingress. -/
def ingressClass : String := "switchyard.io/ingress.class"
/-- Class of an ingress, in the older spelling. -/
def kubernetesIngressClass : String := "kubernetes.io/ingress.class"
/-- Whether an ingress is served in plain text. -/
def allowHttp : String := "kubernetes.io/ingress.allow-http"
/-- Whether plain text requests are sent to TLS. -/
def forceTls : String := "ingress.kubernetes.io/force-ssl-redirect"

end Annotation

namespace Metadata

/-- `m.ingressClass` is the class that an object claims; the own annotation goes first. -/
def ingressClass (m : Metadata) : Option String :=
  m.annotation Annotation.ingressClass <|> m.annotation Annotation.kubernetesIngressClass

/-- `m.httpAllowed` says that an ingress may be served in plain text. -/
def httpAllowed (m : Metadata) : Bool := m.annotation Annotation.allowHttp ≠ some "false"

/-- `m.tlsRequired` says that plain text requests have to be sent to TLS. -/
def tlsRequired (m : Metadata) : Bool := m.annotation Annotation.forceTls = some "true"

/-- `m.websocketRoutes` are the paths that may be upgraded to websockets, in their order and without
repetition. -/
def websocketRoutes (m : Metadata) : List String :=
  match m.annotation Annotation.websocketRoutes with
  | none => []
  | some value =>
    (OrderedMap.ofList (((Text.commaItems value).filter (· ≠ "")).map (·, ()))).keys

end Metadata

end GatewayCompiler
