import GatewayCompiler.Build.State

/-!
# Ingresses

The certificates of ingresses make hosts over TLS, and their rules make routes.

## Main definitions

* `secureGrants` — the hosts of the parts of an ingress with their certificates.
* `ingressPaths` — the hosts and paths of an ingress with the services behind them.
* `Building.addSecureGrants`, `Building.addIngress` — an ingress in a build.
-/

namespace GatewayCompiler.Build

/-- A host with the certificate that an ingress gives it. -/
structure SecureGrant where
  /-- The name of the host. -/
  host : String
  /-- The certificate. -/
  certificate : KeyMaterial
  /-- The lowest TLS version. -/
  minVersion : MinTlsVersion

/-- `grantedKeypair? cache space tls` is the certificate that the part `tls` of an ingress names, if
it is there and may be used from the namespace `space`. -/
def grantedKeypair? (cache : Cache) (space : String) (tls : IngressTls) :
    StateM Lookups (Option KeyMaterial) := do
  match nonEmpty? tls.secretName with
  | none => return none
  | some reference =>
    let secret := Identity.ofReference reference space
    match ← lookupKeypair cache secret with
    | none => return none
    | some keys => return if cache.permits secret space then some keys else none

/-- The hosts of some parts of an ingress with their certificates.  A part without a certificate
gives none. -/
def secureGrants (cache : Cache) (space : String) (minVersion : MinTlsVersion) :
    List IngressTls → StateM Lookups (List SecureGrant)
  | [] => return []
  | tls :: rest => do
    let certificate ← grantedKeypair? cache space tls
    let grants ← secureGrants cache space minVersion rest
    match certificate with
    | none => return grants
    | some certificate =>
      return (tls.hosts.map fun host => ⟨host, certificate, minVersion⟩) ++ grants

/-- A path of an ingress: the host, the path and the service behind it. -/
structure IngressEntry where
  /-- The name of the host. -/
  host : String
  /-- The path. -/
  path : String
  /-- The service. -/
  service : Option IngressService

/-- `ingressPaths spec` are the hosts and paths of an ingress.  What serves everything else stands
for the root of all hosts. -/
def ingressPaths (spec : IngressSpec) : List IngressEntry :=
  (match spec.defaultBackend with
    | none => []
    | some service => [⟨wildcardHost, "/", some service⟩])
  ++ spec.rules.flatMap fun rule => rule.paths.map fun p =>
    ⟨(nonEmpty? rule.host).getD wildcardHost, (nonEmpty? p.path).getD "/", p.service⟩

/-- `portSelector? p` is the port that an ingress names, by a number or else by a name. -/
def portSelector? (p : PortChoice) : Option PortSelector :=
  match p.number, p.name with
  | some n, _ => some (.number n)
  | none, some text => some (.name text)
  | none, none => none

/-- `entry.backend? space` are the service and the port that an entry names. -/
def IngressEntry.backend? (space : String) (entry : IngressEntry) :
    Option (Identity × PortSelector) := do
  let service ← entry.service
  let choice ← service.port
  let selector ← portSelector? choice
  return (⟨space, service.name⟩, selector)

/-- The characters that make a path of an ingress a pattern.  It is nowhere checked whether it is a
well-formed one. -/
def patternChars : List Char := ['^', '+', '*', '[', ']', '%']

/-- `ingressMatch path` is the test of a path of an ingress. -/
def ingressMatch (path : String) : PathMatch :=
  if path.toList.any patternChars.contains then .regex path else .startsWith path

/-- `ingressRoute m path backend` is the route of an entry, with the policies in the annotations `m`
of the ingress. -/
def ingressRoute (m : Metadata) (path : String) (backend : Backend) : Route where
  path := ingressMatch path
  httpsUpgrade := m.tlsRequired
  websocket := m.websocketRoutes.contains path
  retry := RetryPolicy.ofAnnotations? m
  timeout := TimeoutPolicy.ofAnnotations? m
  clusters := [.ofBackend backend]

namespace Building

/-- Give the hosts of `ingress` their certificates. -/
def addSecureGrants (cache : Cache) (b : Building) (ingress : Identity × Ingress) : Building :=
  let minVersion := MinTlsVersion.ofText (ingress.2.metadata.annotation Annotation.minTlsVersion)
  let (grants, b) := b.look (secureGrants cache ingress.1.space minVersion ingress.2.spec.tls)
  grants.foldl (fun b g =>
    b.onSecureHost g.host fun h =>
      { h with certificate := some g.certificate, minVersion := g.minVersion }) b

/-- Attach a route of an ingress to `host`: in plain text where that is allowed or leads to TLS, and
over TLS where the host has a certificate. -/
def attachIngress (m : Metadata) (host : String) (route : Route) (b : Building) : Building :=
  let b := if m.httpAllowed || m.tlsRequired then b.onPlainHost host (·.addRoute route) else b
  if host ≠ wildcardHost ∧ b.secure.contains host then
    -- a request over TLS is not sent there once more
    b.onSecureHost host fun h => { h with host := h.host.addRoute { route with httpsUpgrade := false } }
  else b

/-- Serve an entry of an ingress, if its service is there.  The port is looked up, so that it is
remembered. -/
def addIngressEntry (cache : Cache) (space : String) (m : Metadata) (b : Building)
    (entry : IngressEntry) : Building :=
  match entry.backend? space with
  | none => b
  | some (service, selector) =>
    let (backend, b) := b.look (lookupBackend cache service selector none)
    match backend with
    | none => b
    | some backend => b.attachIngress m entry.host (ingressRoute m entry.path backend)

/-- Serve the entries of `ingress` one after the other. -/
def addIngress (cache : Cache) (b : Building) (ingress : Identity × Ingress) : Building :=
  (ingressPaths ingress.2.spec).foldl
    (addIngressEntry cache ingress.1.space ingress.2.metadata) b

end Building

end GatewayCompiler.Build
