import GatewayCompiler.Build.State

/-!
# Roots

A root is checked before its routes are walked: its namespace, its domain name and its TLS settings.
Roots that share a domain name are all refused.

## Main definitions

* `TlsMode`, `tlsMode` — how a root has its connections decrypted.
* `sharers` — the roots of a domain name.
* `Building.addRoot` — a root in a build.
-/

namespace GatewayCompiler.Build

/-- How the connections to a root are decrypted. -/
inductive TlsMode
  /-- There is no TLS. -/
  | off
  /-- With a certificate. -/
  | terminate (certificate : KeyMaterial) (minVersion : MinTlsVersion)
  /-- Connections are passed on as they are. -/
  | passthrough

/-- `tlsMode cache space tls` is how the connections to a root are decrypted, if its TLS settings
are in order. -/
def tlsMode (cache : Cache) (space : String) : Option TlsSpec → Attempt TlsMode
  | none => return .off
  | some tls =>
    match tls.secretName.filter fun name => !Text.isBlankText name, tls.passthrough with
    | some _, true => throw .secretAndPassthrough
    | none, false => throw .emptyTls
    | none, true => return .passthrough
    | some reference, false => do
      let secret := Identity.ofReference reference space
      match ← lookupKeypair cache secret with
      | none => throw (.badSecret secret)
      | some certificate =>
        if cache.permits secret space then return .terminate certificate (.ofText tls.minVersion)
        else throw (.secretNotPermitted secret)

/-- `checkRoot cache identity v` is how the connections to a root are decrypted, if the root is in
order: it stands in a namespace for roots, and so are its TLS settings. -/
def checkRoot (cache : Cache) (identity : Identity) (v : VirtualHostSpec) :
    Attempt TlsMode := do
  let fqdn := v.domain
  if ¬ cache.config.isRootNamespace identity.space then throw .rootNamespace
  if fqdn = "" then throw .noFqdn
  if fqdn.toList.contains '*' ∧ v.tls.isSome then throw (.wildcardTls fqdn)
  tlsMode cache identity.space v.tls

/-- `sharers hosts fqdn` are the roots of the domain name `fqdn`, in the order of their
identities. -/
def sharers (hosts : OrderedMap Identity GatewayHost) (fqdn : String) : List Identity :=
  hosts.toList.filterMap fun p => do
    let v ← p.2.virtualHost
    if v.domain = fqdn then some p.1 else none

namespace Building

/-- Hold `host` for an orphan if it is without a virtual host. -/
def holdOrphan (b : Building) (host : Identity × GatewayHost) : Building :=
  if host.2.virtualHost.isSome then b else { b with orphans := b.orphans.insert host.1 () }

/-- Report a root that shares its domain name, with all roots of the name. -/
def reportSharers (cache : Cache) (b : Building) (root : Identity × GatewayHost) : Building :=
  match root.2.virtualHost with
  | none => b
  | some v =>
    let fqdn := v.domain
    let members := sharers cache.gatewayHosts fqdn
    if 1 < members.length then
      b.settle (hostRef root.1) (.invalid (.duplicateFqdn fqdn members)) fqdn
    else b

/-- Forward the connections of a root: the steps of `tcpSteps`. -/
def forwardRoot (cache : Cache) (place : Place) (identity : Identity) (host : GatewayHost)
    (b : Building) : Building :=
  b.takeAll cache place (tcpSteps cache.gatewayHosts [identity] identity host.tcpProxy)

/-- Serve the routes of a root with the given `filters`: the steps of `routeSteps`, and those for
service routes behind them. -/
def serveRoot [Pattern.Engine] (cache : Cache) (place : Place) (identity : Identity)
    (host : GatewayHost) (filters : List Filter) (b : Building) : Building :=
  (b.onPlainHost place.host (·.addFilters filters)).takeAll cache place
    (routeSteps cache.gatewayHosts (mergeSteps cache.serviceRoutes place.host) [identity] identity
      [] host.routes)

/-- Serve a root that is in order, as `mode` asks for it. -/
def enterRoot [Pattern.Engine] (cache : Cache) (identity : Identity) (host : GatewayHost)
    (v : VirtualHostSpec) (mode : TlsMode) (b : Building) : Building :=
  let fqdn := v.domain
  let object := hostRef identity
  let (filters, problems) := resolveFilters cache .virtualHost identity.space v.filters
  match mode with
  | .off =>
    serveRoot cache ⟨fqdn, false⟩ identity host filters (b.report object problems fqdn)
  | .terminate certificate minVersion =>
    let b := b.report object problems fqdn
    let b := b.onSecureHost fqdn fun h =>
      { host := h.host.addFilters filters, certificate := some certificate, minVersion }
    if host.tcpProxy.isSome then forwardRoot cache ⟨fqdn, true⟩ identity host b
    else serveRoot cache ⟨fqdn, true⟩ identity host filters b
  -- a certificate that an ingress has brought stays where it is
  | .passthrough =>
    let b := b.onSecureHost fqdn id
    if host.tcpProxy.isSome then forwardRoot cache ⟨fqdn, false⟩ identity host b
    else serveRoot cache ⟨fqdn, false⟩ identity host filters (b.report object problems fqdn)

/-- Serve a root, unless it shares its domain name or `checkRoot` finds something wrong with it. -/
def addRoot [Pattern.Engine] (cache : Cache) (b : Building) (root : Identity × GatewayHost) :
    Building :=
  match root.2.virtualHost with
  | none => b
  | some v =>
    let fqdn := v.domain
    if 1 < (sharers cache.gatewayHosts fqdn).length then b
    else
      let (mode, b) := b.look (checkRoot cache root.1 v).run
      match mode with
      | .error problem => b.settle (hostRef root.1) (.invalid problem) fqdn
      | .ok mode => b.enterRoot cache root.1 root.2 v mode

end Building

end GatewayCompiler.Build
