import GatewayCompiler.Resource.Metadata

/-!
# TLS versions and shared certificates

A host names the lowest TLS version that it accepts.  A certificate may be used by other namespaces
when a delegation in its own namespace says so.

## Main definitions

* `MinTlsVersion` — the versions, with `MinTlsVersion.ofText`.
* `CertificateGrant`, `CertificateDelegation` — who may use which secret.
* `CertificateDelegation.permits` — whether a namespace may use a secret.
-/

namespace GatewayCompiler

open Document

/-- The lowest TLS version that a host accepts. -/
inductive MinTlsVersion
  /-- TLS 1.1. -/
  | v11
  /-- TLS 1.2. -/
  | v12
  /-- TLS 1.3. -/
  | v13
  deriving DecidableEq, Repr, Inhabited

namespace MinTlsVersion

/-- `MinTlsVersion.ofText text` is the version written by a text; anything unknown stands for the
lowest one. -/
def ofText (text : Option String) : MinTlsVersion :=
  match text.map Text.trim with
  | some "1.2" => .v12
  | some "1.3" => .v13
  | _ => .v11

/-- The version number. -/
def text : MinTlsVersion → String
  | .v11 => "1.1"
  | .v12 => "1.2"
  | .v13 => "1.3"

/-- The name of the version in a TLS socket. -/
def protocolName : MinTlsVersion → String
  | .v11 => "TLSv1_1"
  | .v12 => "TLSv1_2"
  | .v13 => "TLSv1_3"

end MinTlsVersion

/-- The namespaces that may use one secret. -/
structure CertificateGrant where
  /-- The name of the secret. -/
  secretName : String
  /-- The namespaces; a star stands for all of them. -/
  targetNamespaces : List String
  deriving DecidableEq, Repr

/-- Grants for the secrets of one namespace. -/
structure CertificateDelegation where
  /-- The metadata. -/
  metadata : Metadata
  /-- The grants. -/
  grants : List CertificateGrant

namespace CertificateDelegation

/-- `d.permits secretName space` says that a namespace may use a secret of the delegation's own
namespace. -/
def permits (d : CertificateDelegation) (secretName space : String) : Bool :=
  d.grants.any fun g =>
    g.secretName = secretName && g.targetNamespaces.any fun t => t = "*" || t = space

/-- The grant written by a node. -/
def decodeGrant (node : Node) : Decode CertificateGrant := do
  let f ← Decode.record ["secretName", "targetNamespaces"] false node
  return {
    secretName := ← f.getOr "secretName" "" Decode.text
    targetNamespaces := ← f.getOr "targetNamespaces" [] (Decode.list Decode.text) }

/-- `CertificateDelegation.decode node` is the delegation written by `node`. -/
def decode (node : Node) : Decode CertificateDelegation := do
  let f ← Decode.record ["metadata", "spec"] false node
  return {
    metadata := ← f.getOr "metadata" {} Metadata.decode
    grants := ← f.getOr "spec" [] fun spec => do
      let f ← Decode.record ["delegations"] false spec
      f.getOr "delegations" [] (Decode.list decodeGrant) }

/-- The grant as a node. -/
def encodeGrant (g : CertificateGrant) : Node :=
  .record [("secretName", .text g.secretName), ("targetNamespaces", .ofTexts g.targetNamespaces)]

/-- The delegation as a node. -/
def encode (d : CertificateDelegation) : Node :=
  .record [("metadata", d.metadata.encode),
    ("spec", .record [("delegations", .ofList encodeGrant d.grants)])]

end CertificateDelegation

end GatewayCompiler
