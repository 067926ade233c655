import GatewayCompiler.Cache
import GatewayCompiler.Graph.Status

/-!
# Look-ups

A build looks services and secrets up in the cache and remembers what it has found.

A port of a service is resolved once in a build: later references to the same number get what the
first one got, even if the service lists the number twice.

## Main definitions

* `PortSelector`, `ResolvedPort` — ports of services.
* `Lookups` — the ports and secrets found so far.
* `lookupPort`, `lookupBackend` — the port that a reference means.
* `lookupSecret`, `lookupKeypair`, `lookupCaBundle` — the secret that a reference means.
-/

namespace GatewayCompiler

/-- How a reference names a port of a service, by its number or by its name. -/
inductive PortSelector
  /-- By its number. -/
  | number (n : Int)
  /-- By its name. -/
  | name (text : String)
  deriving DecidableEq, Repr

/-- `selector.selects port` says that `port` is meant. -/
def PortSelector.selects : PortSelector → ServicePort → Bool
  | .number n, port => port.number = n
  | .name text, port => port.name = some text

/-- `m.portProtocol? port` is the protocol that the annotations `m` of a service give to a port,
which they name by its name or its number. -/
def Metadata.portProtocol? (m : Metadata) (port : ServicePort) : Option Protocol :=
  let names := fun (key : String) =>
    match m.annotation key with
    | none => false
    | some value => (Text.commaItems value).any fun item =>
        item = toString port.number || port.name = some item
  if names Annotation.protocolH2 then some .h2
  else if names Annotation.protocolH2c then some .h2c
  else if names Annotation.protocolTls then some .tls
  else none

/-- The limits in a service's annotations. -/
def Metadata.limits (m : Metadata) : Limits where
  connections := m.number Annotation.maxConnections
  pendingRequests := m.number Annotation.maxPendingRequests
  requests := m.number Annotation.maxRequests
  retries := m.number Annotation.maxRetries

namespace Build

/-- A port of a service, with the protocol that the service's annotations give to it. -/
structure ResolvedPort where
  /-- The port. -/
  target : BackendTarget
  /-- The protocol. -/
  protocol : Option Protocol

/-- A number of a port of a service, under which the port is remembered. -/
structure PortKey where
  /-- The service. -/
  service : Identity
  /-- The number. -/
  number : Int
  deriving DecidableEq, Repr

instance : Ord PortKey := ⟨compareLex (compareOn PortKey.service) (compareOn PortKey.number)⟩

instance : Std.TransOrd PortKey :=
  inferInstanceAs (Std.TransCmp
    (compareLex (compareOn PortKey.service) (compareOn PortKey.number)))

instance : Std.LawfulEqOrd PortKey where
  compare_self := Std.ReflCmp.compare_self
  eq_of_compare {a b} h := by
    obtain ⟨h₁, h₂⟩ := Ordering.then_eq_eq.mp
      (show (compare a.service b.service).then (compare a.number b.number) = .eq from h)
    have h₁ : a.service = b.service := Std.LawfulEqCmp.eq_of_compare h₁
    have h₂ : a.number = b.number := Std.LawfulEqCmp.eq_of_compare h₂
    cases a
    cases b
    cases h₁
    cases h₂
    rfl

/-- What a build has looked up so far: the state of the monad in which clusters and routes are
built. -/
structure Lookups where
  /-- The ports by the numbers that they were found under. -/
  ports : OrderedMap PortKey ResolvedPort := {}
  /-- The secrets. -/
  secrets : OrderedMap Identity KeyMaterial := {}

/-! ### Ports -/

/-- `outsideName? service` is the name that a service of type `ExternalName` stands for. -/
def outsideName? (service : Service) : Option String :=
  if service.type = some "ExternalName" then nonEmpty? service.externalName else none

/-- `resolvePort identity service port` is a port of a service, with all that a cluster takes from
the service. -/
def resolvePort (identity : Identity) (service : Service) (port : ServicePort) : ResolvedPort where
  target := {
    service := identity
    portName := port.name
    portNumber := port.number
    limits := service.metadata.limits
    externalName := outsideName? service }
  protocol := service.metadata.portProtocol? port

/-- `findPort? cache identity selector` is the first port of a service that `selector` means. -/
def findPort? (cache : Cache) (identity : Identity) (selector : PortSelector) :
    Option (Service × ServicePort) := do
  let service ← cache.services.find? identity
  let port ← service.ports.find? selector.selects
  return (service, port)

/-- The port that a reference means: the one resolved before under its number, or else the one that
`findPort?` finds, which is remembered. -/
def lookupPort (cache : Cache) (identity : Identity) (selector : PortSelector) :
    StateM Lookups (Option ResolvedPort) := do
  match findPort? cache identity selector with
  | none => return none
  | some (service, port) =>
    let known ← get
    match known.ports.find? ⟨identity, port.number⟩ with
    -- the name in `selector` plays no part any more
    | some resolved => return some resolved
    | none =>
      let resolved := resolvePort identity service port
      set { known with ports := known.ports.insert ⟨identity, port.number⟩ resolved }
      return some resolved

/-- The backend that a reference means; a `protocol` given with it goes before the annotations. -/
def lookupBackend (cache : Cache) (identity : Identity) (selector : PortSelector)
    (protocol : Option Protocol) : StateM Lookups (Option Backend) := do
  match ← lookupPort cache identity selector with
  | none => return none
  | some resolved =>
    return some ⟨resolved.target, .http ((protocol <|> resolved.protocol).getD .plaintext)⟩

/-! ### Secrets -/

/-- The certificates and keys of a secret, which are copied once and remembered. -/
def lookupSecret (cache : Cache) (identity : Identity) : StateM Lookups (Option KeyMaterial) := do
  let known ← get
  match known.secrets.find? identity with
  | some secret => return some secret
  | none =>
    match cache.keyMaterial? identity with
    | none => return none
    | some secret =>
      set { known with secrets := known.secrets.insert identity secret }
      return some secret

/-- The secret, if it holds a certificate with its key. -/
def lookupKeypair (cache : Cache) (identity : Identity) : StateM Lookups (Option KeyMaterial) :=
  return (← lookupSecret cache identity).filter KeyMaterial.hasKeypair

/-- The secret, if it holds certificate authorities. -/
def lookupCaBundle (cache : Cache) (identity : Identity) : StateM Lookups (Option KeyMaterial) :=
  return (← lookupSecret cache identity).filter KeyMaterial.hasCaBundle

/-- A part of a build that may fail with a `Problem`.  What was looked up before stays remembered
then. -/
abbrev Attempt := ExceptT Problem (StateM Lookups)

end Build

end GatewayCompiler
