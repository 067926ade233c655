import GatewayCompiler.Graph.Match
import GatewayCompiler.Policy.Timeout
import GatewayCompiler.Resource.Tls

/-!
# The routing graph

A graph is what a build comes to: listeners with hosts, hosts with routes, and routes with the
clusters that requests go to.

## Main definitions

* `Protocol`, `Strategy` — how a backend is spoken to and how its endpoints are chosen.
* `Backend` — a port of a service.
* `KeyMaterial` — certificates and keys.
* `Cluster`, `Route`, `VirtualHost`, `SecureHost`, `Host`, `Listener` — the nodes of the graph.
* `VirtualHost.addRoute`, `VirtualHost.addFilters` — additions, in which the later one counts.
-/

namespace GatewayCompiler

/-! ### Backends -/

/-- The protocol that a backend speaks. -/
inductive Protocol
  /-- HTTP in plain text. -/
  | plaintext
  /-- HTTP/2 over TLS. -/
  | h2
  /-- HTTP/2 in plain text. -/
  | h2c
  /-- HTTP over TLS. -/
  | tls
  deriving DecidableEq, Repr, Inhabited

namespace Protocol

/-- `Protocol.ofText? text` is the protocol of a name. -/
def ofText? (text : String) : Option Protocol :=
  match Text.trim text with
  | "" | "plaintext" => some .plaintext
  | "h2" => some .h2
  | "h2c" => some .h2c
  | "tls" => some .tls
  | _ => none

/-- The name of a protocol. -/
def text : Protocol → String
  | .plaintext => ""
  | .h2 => "h2"
  | .h2c => "h2c"
  | .tls => "tls"

/-- Whether connections are made over TLS. -/
def usesTls : Protocol → Bool
  | .h2 | .tls => true
  | .plaintext | .h2c => false

/-- Whether requests are made in HTTP/2. -/
def usesHttp2 : Protocol → Bool
  | .h2 | .h2c => true
  | .plaintext | .tls => false

end Protocol

/-- How an endpoint of a backend is chosen. -/
inductive Strategy
  /-- One after the other. -/
  | roundRobin
  /-- The one with the fewest requests. -/
  | weightedLeastRequest
  /-- Any of them. -/
  | random
  /-- By a hash on a ring. -/
  | ringHash
  /-- By a hash in a table. -/
  | maglev
  /-- By a hash on a ring that a cookie keeps. -/
  | cookie
  deriving DecidableEq, Repr, Inhabited

namespace Strategy

/-- `Strategy.ofText text` is the strategy of a name; anything unknown stands for one after the
other. -/
def ofText (text : Option String) : Strategy :=
  match text.map Text.trim with
  | some "WeightedLeastRequest" => .weightedLeastRequest
  | some "Random" => .random
  | some "RingHash" => .ringHash
  | some "Maglev" => .maglev
  | some "Cookie" => .cookie
  | _ => .roundRobin

/-- The name of a strategy. -/
def text : Strategy → String
  | .roundRobin => "RoundRobin"
  | .weightedLeastRequest => "WeightedLeastRequest"
  | .random => "Random"
  | .ringHash => "RingHash"
  | .maglev => "Maglev"
  | .cookie => "Cookie"

end Strategy

/-- How whole requests or connections reach a backend. -/
inductive Transport
  /-- As connections. -/
  | tcp
  /-- As requests in a protocol. -/
  | http (protocol : Protocol)
  deriving DecidableEq, Repr

/-- How much a backend is given at a time; zero stands for no limit. -/
structure Limits where
  /-- Connections. -/
  connections : Nat := 0
  /-- Requests that wait. -/
  pendingRequests : Nat := 0
  /-- Requests. -/
  requests : Nat := 0
  /-- Retries. -/
  retries : Nat := 0
  deriving DecidableEq, Repr

/-- `l.isSet` says that any limit is set. -/
def Limits.isSet (l : Limits) : Bool :=
  0 < l.connections || 0 < l.pendingRequests || 0 < l.requests || 0 < l.retries

/-- A port of a service, as it is known to a build: with its number, its name and what else of the
service matters to a cluster. -/
structure BackendTarget where
  /-- The service. -/
  service : Identity
  /-- The name of the port. -/
  portName : Option String
  /-- The number of the port. -/
  portNumber : Int
  /-- How much it is given at a time. -/
  limits : Limits := {}
  /-- The name outside of the cluster that the service stands for. -/
  externalName : Option String := none
  deriving DecidableEq, Repr

/-- `t.endpointsName` is the name of the endpoints of the port `t`. -/
def BackendTarget.endpointsName (t : BackendTarget) : String :=
  match t.portName with
  | none | some "" => t.service.text
  | some name => t.service.text ++ "/" ++ name

/-- A port of a service and how it is reached. -/
structure Backend where
  /-- The port. -/
  target : BackendTarget
  /-- How it is reached. -/
  transport : Transport
  deriving DecidableEq, Repr

/-- `b.protocol` is the protocol that requests are made in, which is plain text for connections. -/
def Backend.protocol (b : Backend) : Protocol :=
  match b.transport with
  | .tcp => .plaintext
  | .http protocol => protocol

/-! ### Certificates and keys -/

/-- Certificates and keys taken from a secret. -/
structure KeyMaterial where
  /-- The secret. -/
  identity : Identity
  /-- The byte strings by their names. -/
  data : OrderedMap String (List UInt8)

namespace KeyMaterial

/-- The name of a certificate chain. -/
def certificateKey : String := "tls.crt"

/-- The name of a private key. -/
def privateKeyKey : String := "tls.key"

/-- The name of a bundle of certificate authorities. -/
def caBundleKey : String := "ca.crt"

/-- `k.bytes key` is the byte string of that name; without one, the empty one. -/
def bytes (k : KeyMaterial) (key : String) : List UInt8 := (k.data.find? key).getD []

/-- The certificate chain. -/
def certificateChain (k : KeyMaterial) : List UInt8 := k.bytes certificateKey

/-- The private key. -/
def privateKey (k : KeyMaterial) : List UInt8 := k.bytes privateKeyKey

/-- The bundle of certificate authorities. -/
def caBundle (k : KeyMaterial) : List UInt8 := k.bytes caBundleKey

/-- `k.hasKeypair` says that there is a certificate with its key. -/
def hasKeypair (k : KeyMaterial) : Bool := k.certificateChain != [] && k.privateKey != []

/-- `k.hasCaBundle` says that there are certificate authorities. -/
def hasCaBundle (k : KeyMaterial) : Bool := k.caBundle != []

end KeyMaterial

/-! ### Clusters and routes -/

/-- A check of the health of a backend; zero stands for the usual value. -/
structure HealthCheck where
  /-- The path of the request. -/
  path : String
  /-- The host header of the request. -/
  host : Option String
  /-- The time between two checks. -/
  intervalSeconds : Int
  /-- The time for an answer. -/
  timeoutSeconds : Int
  /-- The number of failures that make the backend unhealthy. -/
  unhealthyThreshold : Nat
  /-- The number of answers that make the backend healthy. -/
  healthyThreshold : Nat
  deriving DecidableEq, Repr

/-- How the certificate of a backend is verified. -/
structure ServerValidation where
  /-- The certificate authorities. -/
  ca : KeyMaterial
  /-- The name in the certificate. -/
  subjectName : String

/-- The greatest share of the requests that a cluster may have: the greatest number of 32 bits. -/
def maxShare : Nat := Text.limit32 - 1

/-- A backend with its share of the requests. -/
structure Cluster where
  /-- The backend. -/
  backend : Backend
  /-- How its endpoints are chosen. -/
  strategy : Strategy := .roundRobin
  /-- Its share of the requests. -/
  weight : Nat := 0
  /-- Its health check. -/
  healthCheck : Option HealthCheck := none
  /-- The verification of its certificate. -/
  serverValidation : Option ServerValidation := none
  /-- The certificate that is shown to it. -/
  clientCertificate : Option KeyMaterial := none
  /-- The filters on the requests to it. -/
  filters : List Filter := []
  /-- The server name of TLS connections to it. -/
  sni : Option String

/-- `Cluster.ofBackend backend` is a backend with nothing set; the server name is the name that the
service stands for. -/
def Cluster.ofBackend (backend : Backend) : Cluster :=
  { backend, sni := backend.target.externalName }

/-- A rule of a host. -/
structure Route where
  /-- The test of the path. -/
  path : PathMatch := .startsWith "/"
  /-- The tests of headers. -/
  headers : List HeaderMatch := []
  /-- The backends that requests go to. -/
  clusters : List Cluster := []
  /-- Whether plain text requests are sent to TLS. -/
  httpsUpgrade : Bool := false
  /-- Whether connections may become websockets. -/
  websocket : Bool := false
  /-- What replaces the matched beginning of the path. -/
  prefixReplacement : Option String := none
  /-- The retries. -/
  retry : Option RetryPolicy := none
  /-- The timeouts. -/
  timeout : Option TimeoutPolicy := none
  /-- The filters. -/
  filters : List Filter := []
  /-- Whether requests are not authorized elsewhere. -/
  skipAuthorization : Bool := false

/-- `r.key` is the text that tells the routes of a host apart, made from the tests of `r`. -/
def Route.key (r : Route) : String := matchKey r.path r.headers

/-! ### Hosts and listeners -/

/-- What is served under one name. -/
structure VirtualHost where
  /-- The name. -/
  name : String
  /-- The rules by their keys. -/
  routes : OrderedMap String Route := {}
  /-- The backends that whole connections go to. -/
  tcpProxy : Option (List Cluster) := none
  /-- The filters. -/
  filters : List Filter := []

/-- The name of the host that serves what no other host does. -/
def wildcardHost : String := "*"

/-- `addFilter f filters` are `filters` with `f`, which replaces one of the same name. -/
def addFilter (f : Filter) : List Filter → List Filter
  | [] => [f]
  | g :: rest => if g.name = f.name then f :: rest else g :: addFilter f rest

namespace VirtualHost

/-- `h.addRoute route` is the host with a rule, which replaces one of the same `Route.key`. -/
def addRoute (route : Route) (h : VirtualHost) : VirtualHost :=
  { h with routes := h.routes.insert route.key route }

/-- `h.addFilters filters` is the host with further filters, each of which replaces one of the same
name. -/
def addFilters (filters : List Filter) (h : VirtualHost) : VirtualHost :=
  { h with filters := filters.foldl (fun acc f => addFilter f acc) h.filters }

end VirtualHost

/-- What is served under one name over TLS. -/
structure SecureHost where
  /-- What is served. -/
  host : VirtualHost
  /-- The certificate; without one connections are passed on. -/
  certificate : Option KeyMaterial := none
  /-- The lowest TLS version. -/
  minVersion : MinTlsVersion := .v11

/-- A host of a listener. -/
inductive Host
  /-- A host in plain text. -/
  | plain (host : VirtualHost)
  /-- A host over TLS. -/
  | secure (host : SecureHost)

namespace Host

/-- What is served. -/
def virtualHost : Host → VirtualHost
  | .plain host => host
  | .secure host => host.host

/-- `h.isRetained` says that there is anything to serve.  Other hosts do not come into a graph. -/
def isRetained : Host → Bool
  | .plain host => !host.routes.isEmpty
  | .secure host => host.certificate.isSome || host.host.tcpProxy.isSome

end Host

/-- A listener, known by its role: the usual port number of plain text or of TLS. -/
structure Listener where
  /-- The number that stands for the role. -/
  role : Nat
  /-- The hosts by their names. -/
  hosts : OrderedMap String Host

namespace Listener

/-- The role of the plain text listener. -/
def plainRole : Nat := 80

/-- The role of the TLS listener. -/
def secureRole : Nat := 443

/-- `l.isSecure` says that the listener has the role of TLS. -/
def isSecure (l : Listener) : Bool := l.role = secureRole

/-- `l.prune` is the listener without the hosts that have nothing to serve. -/
def prune (l : Listener) : Listener := { l with hosts := l.hosts.filter Host.isRetained }

end Listener

end GatewayCompiler
