import GatewayCompiler.Filter.Error
import GatewayCompiler.Graph.Conditions

/-!
# Statuses

A build records one status for every host and every service route.  The first status recorded for
an object is final.

## Main definitions

* `Problem`, `Problem.message` — what can be wrong with a routing object.
* `Outcome` — the result of looking at an object, with its kind and description.
* `Status` — an outcome with the host it concerns.
* `Ledger`, `Ledger.record` — values by object, in which the first one counts.
* `describeCycle` — a chain of delegations in words.

## Main statements

* `Ledger.find?_record_self`, `Ledger.find?_record_of_ne` — what is found after recording.
-/

namespace GatewayCompiler

/-- `describeCycle chain` is a chain of delegations in words, with an arrow between its members. -/
def describeCycle (chain : List Identity) : String :=
  " -> ".intercalate (chain.map Identity.text)

/-- What can be wrong with a routing object. -/
inductive Problem
  /-- Several roots claim a domain name. -/
  | duplicateFqdn (fqdn : String) (members : List Identity)
  /-- A root stands in a namespace for other things. -/
  | rootNamespace
  /-- A root has no domain name. -/
  | noFqdn
  /-- A domain name with a star has TLS settings. -/
  | wildcardTls (fqdn : String)
  /-- TLS settings name a secret and pass connections on. -/
  | secretAndPassthrough
  /-- A secret may not be used from here. -/
  | secretNotPermitted (secret : Identity)
  /-- A secret is missing or holds no certificate. -/
  | badSecret (secret : Identity)
  /-- TLS settings do neither of what they could do. -/
  | emptyTls
  /-- A filter is missing. -/
  | filterMissing (scope : FilterScope) (filter : Identity)
  /-- A filter has bad settings. -/
  | badFilter (filter : Identity) (error : FilterError)
  /-- The conditions of a route are wrong. -/
  | badConditions (error : ConditionError)
  /-- A route has services and a delegate. -/
  | servicesAndDelegate
  /-- A route with a pattern is delegated. -/
  | regexDelegated
  /-- Routes are delegated in a circle. -/
  | routeCycle (chain : List Identity)
  /-- A root delegates to another root. -/
  | delegateIsRoot (target : Identity)
  /-- A service route delegates. -/
  | serviceRouteDelegates
  /-- A route has neither services nor a delegate. -/
  | emptyRoute
  /-- A port number is out of range. -/
  | portOutOfRange (service : String)
  /-- A weight is negative. -/
  | negativeWeight (service : String)
  /-- A protocol is unknown. -/
  | unknownProtocol (service : String) (protocol : String)
  /-- A service or its port is missing. -/
  | serviceMissing (service : String) (number : Int)
  /-- A server validation names no subject. -/
  | noSubject (service : String) (number : Int)
  /-- The certificate authorities of a server validation are missing. -/
  | badCa (service : String) (number : Int) (secret : Identity)
  /-- The certificate that is shown to a service is missing. -/
  | badClientSecret (service : String) (number : Int) (secret : Identity)
  /-- The target of a forwarding does not forward. -/
  | noTcpProxy
  /-- A forwarding has services and a delegate. -/
  | tcpServicesAndDelegate
  /-- A service of a forwarding or its port is missing. -/
  | tcpServiceMissing (service : Identity) (number : Int)
  /-- A forwarding has neither services nor a delegate. -/
  | emptyTcpProxy
  /-- The delegate of a forwarding is missing. -/
  | tcpDelegateMissing (target : Identity)
  /-- Forwarding is delegated in a circle. -/
  | tcpCycle (chain : List Identity)
  deriving DecidableEq, Repr

/-- `problem.message` is the wording of a problem, as the status of an object shows it. -/
def Problem.message : Problem → String
  | .duplicateFqdn fqdn members =>
    s!"fqdn {Text.quoted fqdn} is used in multiple GatewayHosts: "
      ++ ", ".intercalate (members.map Identity.text)
  | .rootNamespace => "root GatewayHost cannot be defined in this namespace"
  | .noFqdn => "Spec.VirtualHost.Fqdn must be specified"
  | .wildcardTls fqdn =>
    s!"Spec.VirtualHost.Fqdn {Text.quoted fqdn} cannot use wildcards with TLS"
  | .secretAndPassthrough =>
    "Spec.VirtualHost.TLS: both secretName and passthrough cannot be specified"
  | .secretNotPermitted secret => s!"{secret.text} certificate delegation not permitted"
  | .badSecret secret => s!"TLS Secret {secret.text} not found or is malformed"
  | .emptyTls => "Spec.VirtualHost.TLS must specify either secretName or passthrough"
  | .filterMissing scope filter => s!"{scope.text} filter {filter.text} not found"
  | .badFilter filter e => s!"filter {filter.text}: {e.message}"
  | .badConditions e => e.message
  | .servicesAndDelegate => "route: cannot specify services and delegate in the same route"
  | .regexDelegated => "route: regex conditions cannot be delegated"
  | .routeCycle chain => s!"route creates a delegation cycle: {describeCycle chain}"
  | .delegateIsRoot target =>
    s!"root GatewayHost cannot delegate to another root GatewayHost {target.text}"
  | .serviceRouteDelegates => "ServiceRoute routes cannot delegate"
  | .emptyRoute => "route: must specify at least one service or a delegate"
  | .portOutOfRange service => s!"service {service}: port must be in the range 1-65535"
  | .negativeWeight service => s!"service {service}: weight must be greater than or equal to zero"
  | .unknownProtocol service protocol =>
    s!"service {service}: unsupported protocol {Text.quoted protocol}"
  | .serviceMissing service number => s!"Service [{service}:{number}] is invalid or missing"
  | .noSubject service number =>
    s!"Service [{service}:{number}] TLS upstream validation policy error: "
      ++ "subjectName is required"
  | .badCa service number secret =>
    s!"Service [{service}:{number}] TLS upstream validation policy error: "
      ++ s!"CA secret {secret.text} not found or is malformed"
  | .badClientSecret service number secret =>
    s!"Service [{service}:{number}] client certificate {secret.text} not found or is malformed"
  | .noTcpProxy => "tcpproxy: delegate target has no tcpproxy block"
  | .tcpServicesAndDelegate =>
    "tcpproxy: cannot specify services and delegate in the same tcpproxy block"
  | .tcpServiceMissing service number => s!"tcpproxy: service {service.text}/{number}: not found"
  | .emptyTcpProxy => "tcpproxy: either services or delegate must be specified"
  | .tcpDelegateMissing target => s!"tcpproxy: unresolved delegate {target.text}"
  | .tcpCycle chain => s!"tcpproxy creates a delegation cycle: {describeCycle chain}"

/-- The kinds of status. -/
inductive StatusKind
  /-- The object is in use. -/
  | valid
  /-- Something is wrong with the object. -/
  | invalid
  /-- Nothing leads to the object. -/
  | orphaned
  deriving DecidableEq, Repr

/-- The name of a kind. -/
def StatusKind.text : StatusKind → String
  | .valid => "valid"
  | .invalid => "invalid"
  | .orphaned => "orphaned"

/-- The result of looking at an object. -/
inductive Outcome
  /-- The object is in use. -/
  | valid (kind : ObjectKind)
  /-- Something is wrong with the object. -/
  | invalid (problem : Problem)
  /-- No root leads to the host. -/
  | orphanedHost
  /-- No root has the domain name of the service route. -/
  | orphanedRoute (fqdn : String)
  deriving DecidableEq, Repr

namespace Outcome

/-- The kind of status. -/
def kind : Outcome → StatusKind
  | .valid _ => .valid
  | .invalid _ => .invalid
  | .orphanedHost | .orphanedRoute _ => .orphaned

/-- `outcome.description` is the outcome in words. -/
def description : Outcome → String
  | .valid kind => s!"valid {kind.text}"
  | .invalid problem => problem.message
  | .orphanedHost => "this GatewayHost is not part of a delegation chain from a root GatewayHost"
  | .orphanedRoute fqdn => s!"no root GatewayHost serves fqdn {Text.quoted fqdn}"

end Outcome

/-- An outcome with the host it concerns. -/
structure Status where
  /-- The result. -/
  outcome : Outcome
  /-- The name of the host; empty when there is none. -/
  host : String
  deriving DecidableEq, Repr

/-! ### The ledger -/

/-- Values by object, in which the first value of an object counts. -/
abbrev Ledger (ν : Type) := OrderedMap ObjectRef ν

namespace Ledger

variable {ν : Type}

/-- `l.record object value` is the ledger with a value for an object that has none yet.  A later
value for it is dropped. -/
def record (object : ObjectRef) (value : ν) (l : Ledger ν) : Ledger ν :=
  OrderedMap.insertNew l object value

/-- What is found for an object after `record`ing a value for it: the first one. -/
theorem find?_record_self (object : ObjectRef) (value : ν) (l : Ledger ν) :
    OrderedMap.find? (l.record object value) object
      = some ((OrderedMap.find? l object).getD value) := by
  cases h : OrderedMap.find? l object with
  | some old => simp [record, OrderedMap.insertNew, OrderedMap.contains, h]
  | none => simp [record, OrderedMap.insertNew, OrderedMap.contains, h]

/-- Recording a value for an object leaves the others alone. -/
theorem find?_record_of_ne {object other : ObjectRef} (value : ν) (l : Ledger ν)
    (h : other ≠ object) :
    OrderedMap.find? (l.record object value) other = OrderedMap.find? l other := by
  by_cases hc : OrderedMap.contains l object
  · simp [record, OrderedMap.insertNew, hc]
  · simp [record, OrderedMap.insertNew, hc, OrderedMap.find?_insert_of_ne l value h]

/-- Which objects have a value after `record`ing one. -/
theorem contains_record {object other : ObjectRef} {value : ν} {l : Ledger ν} :
    OrderedMap.contains (l.record object value) other ↔
      other = object ∨ OrderedMap.contains l other := by
  by_cases h : other = object
  · simp [OrderedMap.contains, h, find?_record_self]
  · simp [OrderedMap.contains, h, find?_record_of_ne value l h]

/-- A value that is found after recording one was there before, or it is the new one. -/
theorem of_find?_record {object other : ObjectRef} {value v : ν} {l : Ledger ν}
    (h : OrderedMap.find? (l.record object value) other = some v) :
    OrderedMap.find? l other = some v ∨ other = object ∧ v = value := by
  by_cases heq : other = object
  · subst heq
    rw [find?_record_self, Option.some.injEq] at h
    cases hold : OrderedMap.find? l other with
    | some old =>
      rw [hold] at h
      exact .inl (congrArg some h)
    | none =>
      rw [hold] at h
      exact .inr ⟨rfl, h.symm⟩
  · rw [find?_record_of_ne value l heq] at h
    exact .inl h

end Ledger

end GatewayCompiler
