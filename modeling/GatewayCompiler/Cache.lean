import GatewayCompiler.Config.Basic
import GatewayCompiler.Graph.Basic
import GatewayCompiler.Resource.Cluster
import GatewayCompiler.Resource.Tls

/-!
# The resource cache

The cache holds the latest version of every resource that a build reads, by kind and identity.

## Main definitions

* `Resource` — a resource of any kind.
* `Cache` — the resources of each kind with the configuration that says which of them are taken.
* `Cache.accepts`, `Cache.insert?`, `Cache.remove?` — taking and dropping a resource.
* `Cache.permits` — whether a secret may be used from a namespace.
* `Cache.keyMaterial?` — the certificates and keys of a cached secret.
-/

namespace GatewayCompiler

/-- A resource of any kind, as it is brought to a cache or dropped from it. -/
inductive Resource
  /-- An ingress. -/
  | ingress (object : Ingress)
  /-- A host. -/
  | gatewayHost (object : GatewayHost)
  /-- Further routes of a host. -/
  | serviceRoute (object : ServiceRoute)
  /-- A service. -/
  | service (object : Service)
  /-- A secret. -/
  | secret (object : Secret)
  /-- A filter for hosts. -/
  | httpFilter (object : FilterObject)
  /-- A filter for routes and services. -/
  | routeFilter (object : FilterObject)
  /-- A delegation of certificates. -/
  | delegation (object : CertificateDelegation)

/-- The latest version of every resource, by kind and identity. -/
structure Cache where
  /-- Which resources are taken. -/
  config : CacheConfig := {}
  /-- The ingresses. -/
  ingresses : OrderedMap Identity Ingress := {}
  /-- The hosts. -/
  gatewayHosts : OrderedMap Identity GatewayHost := {}
  /-- The further routes. -/
  serviceRoutes : OrderedMap Identity ServiceRoute := {}
  /-- The services. -/
  services : OrderedMap Identity Service := {}
  /-- The secrets. -/
  secrets : OrderedMap Identity Secret := {}
  /-- The filters for hosts. -/
  httpFilters : OrderedMap Identity FilterObject := {}
  /-- The filters for routes and services. -/
  routeFilters : OrderedMap Identity FilterObject := {}
  /-- The delegations of certificates. -/
  delegations : OrderedMap Identity CertificateDelegation := {}

/-- `s.isUsable` says that the secret `s` holds a certificate with its key, or certificate
authorities. -/
def Secret.isUsable (s : Secret) : Bool :=
  (s.data.contains KeyMaterial.certificateKey && s.data.contains KeyMaterial.privateKeyKey)
    || s.data.contains KeyMaterial.caBundleKey

namespace Cache

/-- `c.accepts r` says that the resource `r` is taken: it is of the right class, or a secret that is
good for TLS. -/
def accepts (c : Cache) : Resource → Bool
  | .ingress o => c.config.matchesIngressClass (o.metadata.ingressClass <|> o.spec.className)
  | .gatewayHost o => c.config.matchesIngressClass o.metadata.ingressClass
  | .serviceRoute o => c.config.matchesIngressClass o.metadata.ingressClass
  | .secret o => o.isUsable
  | .service _ | .httpFilter _ | .routeFilter _ | .delegation _ => true

/-- `c.put r` is the cache `c` with the resource `r` in place of the one of its kind and
identity. -/
def put (c : Cache) : Resource → Cache
  | .ingress o => { c with ingresses := c.ingresses.insert o.metadata.identity o }
  | .gatewayHost o => { c with gatewayHosts := c.gatewayHosts.insert o.metadata.identity o }
  | .serviceRoute o => { c with serviceRoutes := c.serviceRoutes.insert o.metadata.identity o }
  | .service o => { c with services := c.services.insert o.metadata.identity o }
  | .secret o => { c with secrets := c.secrets.insert o.metadata.identity o }
  | .httpFilter o => { c with httpFilters := c.httpFilters.insert o.metadata.identity o }
  | .routeFilter o => { c with routeFilters := c.routeFilters.insert o.metadata.identity o }
  | .delegation o => { c with delegations := c.delegations.insert o.metadata.identity o }

/-- `c.insert? r` is the cache with the resource `r`, or nothing if the resource is not taken.  Then
the resource that was there before stays. -/
def insert? (c : Cache) (r : Resource) : Option Cache := if c.accepts r then some (c.put r) else none

/-- `eraseKey? m key` is the map `m` without the value at `key`, or nothing if there is none. -/
def eraseKey? {ν : Type} (m : OrderedMap Identity ν) (key : Identity) :
    Option (OrderedMap Identity ν) :=
  if m.contains key then some (m.erase key) else none

/-- `c.remove? r` is the cache without the resource of the same kind and identity as `r`, or nothing
if there is none. -/
def remove? (c : Cache) : Resource → Option Cache
  | .ingress o =>
    (eraseKey? c.ingresses o.metadata.identity).map fun m => { c with ingresses := m }
  | .gatewayHost o =>
    (eraseKey? c.gatewayHosts o.metadata.identity).map fun m => { c with gatewayHosts := m }
  | .serviceRoute o =>
    (eraseKey? c.serviceRoutes o.metadata.identity).map fun m => { c with serviceRoutes := m }
  | .service o =>
    (eraseKey? c.services o.metadata.identity).map fun m => { c with services := m }
  | .secret o =>
    (eraseKey? c.secrets o.metadata.identity).map fun m => { c with secrets := m }
  | .httpFilter o =>
    (eraseKey? c.httpFilters o.metadata.identity).map fun m => { c with httpFilters := m }
  | .routeFilter o =>
    (eraseKey? c.routeFilters o.metadata.identity).map fun m => { c with routeFilters := m }
  | .delegation o =>
    (eraseKey? c.delegations o.metadata.identity).map fun m => { c with delegations := m }

/-- `c.permits secret space` says that a secret may be used from the namespace `space`: from its
own, or by a delegation there. -/
def permits (c : Cache) (secret : Identity) (space : String) : Bool :=
  secret.space = space ||
    c.delegations.toList.any fun p =>
      p.1.space = secret.space && p.2.permits secret.name space

/-- `c.keyMaterial? identity` are the certificates and keys of a cached secret. -/
def keyMaterial? (c : Cache) (identity : Identity) : Option KeyMaterial :=
  (c.secrets.find? identity).map fun s => ⟨identity, s.data⟩

/-- `c.keypair? identity` is a cached secret that holds a certificate with its key. -/
def keypair? (c : Cache) (identity : Identity) : Option KeyMaterial :=
  (c.keyMaterial? identity).filter KeyMaterial.hasKeypair

/-- `c.caBundle? identity` is a cached secret that holds certificate authorities. -/
def caBundle? (c : Cache) (identity : Identity) : Option KeyMaterial :=
  (c.keyMaterial? identity).filter KeyMaterial.hasCaBundle

/-- `c.filterObject? scope identity` is the filter object that a reference means at `scope`. -/
def filterObject? (c : Cache) (scope : FilterScope) (identity : Identity) : Option FilterObject :=
  match scope with
  | .virtualHost => c.httpFilters.find? identity
  | .route | .cluster => c.routeFilters.find? identity

end Cache

end GatewayCompiler
