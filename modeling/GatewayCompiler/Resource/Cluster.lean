import GatewayCompiler.Encoding.Base64
import GatewayCompiler.Resource.Routing

/-!
# Objects of the cluster

Ingresses, services and secrets come from the cluster itself.  Each of their fields may be missing
or null, and only those that matter for routing are kept.

## Main definitions

* `Ingress` — hosts and paths with the services behind them.
* `Service`, `ServicePort` — a service with its ports.
* `Secret` — named byte strings: certificates and keys.
-/

namespace GatewayCompiler

open Document

/-- A port of a service. -/
structure ServicePort where
  /-- The name. -/
  name : Option String
  /-- The number. -/
  number : Int
  deriving DecidableEq, Repr

/-- A service of the cluster. -/
structure Service where
  /-- The metadata. -/
  metadata : Metadata
  /-- The type. -/
  type : Option String
  /-- The name that a service of type `ExternalName` stands for. -/
  externalName : Option String
  /-- The ports. -/
  ports : List ServicePort

/-- How an ingress names a port: by number or by name; the number goes first. -/
structure PortChoice where
  /-- The number. -/
  number : Option Int
  /-- The name. -/
  name : Option String
  deriving DecidableEq, Repr

/-- The service behind a path. -/
structure IngressService where
  /-- The name of the service. -/
  name : String
  /-- The port. -/
  port : Option PortChoice
  deriving DecidableEq, Repr

/-- A path of an ingress. -/
structure IngressPath where
  /-- The path. -/
  path : Option String
  /-- The service behind it. -/
  service : Option IngressService
  deriving DecidableEq, Repr

/-- The paths of one host. -/
structure IngressRule where
  /-- The host; all hosts when it is not given. -/
  host : Option String
  /-- The paths. -/
  paths : List IngressPath
  deriving DecidableEq, Repr

/-- The certificate of some hosts. -/
structure IngressTls where
  /-- The hosts. -/
  hosts : List String
  /-- The secret with the certificate. -/
  secretName : Option String
  deriving DecidableEq, Repr

/-- The routing part of an ingress. -/
structure IngressSpec where
  /-- The class. -/
  className : Option String := none
  /-- The service behind everything else, if there is one. -/
  defaultBackend : Option IngressService := none
  /-- The rules. -/
  rules : List IngressRule := []
  /-- The certificates. -/
  tls : List IngressTls := []

/-- Hosts and paths with the services behind them. -/
structure Ingress where
  /-- The metadata. -/
  metadata : Metadata
  /-- The routing part. -/
  spec : IngressSpec

/-- Named byte strings: certificates and keys. -/
structure Secret where
  /-- The metadata. -/
  metadata : Metadata
  /-- The byte strings by their names. -/
  data : OrderedMap String (List UInt8)

/-! ### Decoding -/

open Decode

/-- `decodeMetadata f` are the metadata of an object of the cluster, which may be null. -/
def decodeMetadata (f : Fields) : Decode Metadata := do
  return (← f.optional "metadata" Metadata.decode).getD {}

/-- `part f name` are the fields of a part that may be null. -/
def part (f : Fields) (name : String) : Decode Fields :=
  f.getOr name ⟨[]⟩ lenientRecord

/-- `lenientList f name decoder` is a list that may be null. -/
def lenientList {α : Type} (f : Fields) (name : String) (decoder : Node → Decode α) :
    Decode (List α) := do
  return (← f.optional name (list decoder)).getD []

/-- `ServicePort.decode node` is the port of a service written by `node`. -/
def ServicePort.decode (node : Node) : Decode ServicePort := do
  let f ← openRecord node
  return { name := ← f.optional "name" Decode.text
           number := (← f.optional "port" (signed limitInt32)).getD 0 }

/-- `Service.decode node` is the service written by `node`. -/
def Service.decode (node : Node) : Decode Service := do
  let f ← openRecord node
  let metadata ← decodeMetadata f
  let spec ← part f "spec"
  return {
    metadata
    type := ← spec.optional "type" Decode.text
    externalName := ← spec.optional "externalName" Decode.text
    ports := ← lenientList spec "ports" ServicePort.decode }

/-- `IngressService.decodeBackend f` is the service behind a path, written by the node of a
backend. -/
def IngressService.decodeBackend (f : Fields) : Decode (Option IngressService) :=
  f.optional "service" fun node => do
    let f ← openRecord node
    return {
      name := (← f.optional "name" Decode.text).getD ""
      port := ← f.optional "port" fun node => do
        let f ← openRecord node
        return { number := ← f.optional "number" (signed limitInt32)
                 name := ← f.optional "name" Decode.text } }

/-- `IngressPath.decode node` is the path written by `node`. -/
def IngressPath.decode (node : Node) : Decode IngressPath := do
  let f ← openRecord node
  return { path := ← f.optional "path" Decode.text
           service := ← IngressService.decodeBackend (← part f "backend") }

/-- The rule written by a node. -/
def IngressRule.decode (node : Node) : Decode IngressRule := do
  let f ← openRecord node
  return { host := ← f.optional "host" Decode.text
           paths := ← lenientList (← part f "http") "paths" IngressPath.decode }

/-- The certificate written by a node. -/
def IngressTls.decode (node : Node) : Decode IngressTls := do
  let f ← openRecord node
  return { hosts := ← lenientList f "hosts" Decode.text
           secretName := ← f.optional "secretName" Decode.text }

/-- `Ingress.decode node` is the ingress written by `node`. -/
def Ingress.decode (node : Node) : Decode Ingress := do
  let f ← openRecord node
  let metadata ← decodeMetadata f
  let spec ← part f "spec"
  return {
    metadata
    spec := {
      className := ← spec.optional "ingressClassName" Decode.text
      defaultBackend := ← IngressService.decodeBackend (← part spec "defaultBackend")
      rules := ← lenientList spec "rules" IngressRule.decode
      tls := ← lenientList spec "tls" IngressTls.decode } }

/-- A byte string written in base64. -/
def decodeBytes (node : Node) : Decode (List UInt8) := do
  match Encoding.unbase64? (← Decode.text node) with
  | some bytes => return bytes
  | none => failure

/-- `Secret.decode node` is the secret written by `node`, its byte strings in base64. -/
def Secret.decode (node : Node) : Decode Secret := do
  let f ← openRecord node
  let metadata ← decodeMetadata f
  let data ← f.optional "data" fun node => do
    (← entries node).mapM fun p => do return (p.1, ← decodeBytes p.2)
  return { metadata, data := OrderedMap.ofList (data.getD []) }

end GatewayCompiler
