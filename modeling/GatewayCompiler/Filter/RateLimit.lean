import GatewayCompiler.Filter.Error
import GatewayCompiler.Proxy.Basic

/-!
# Rate limits

On a host the settings describe the filter itself: its domain and the service that counts.  On a
route they say what is counted, and may name the service too.

## Main definitions

* `RateLimitDescriptor` — what is counted.
* `RateLimitSettings` — the settings, with their decoder.
* `validateFilter`, `validateRoute` — the checks for both places.
* `chainConfig`, `routeActions` — the filter in a connection manager and the part of a route.
-/

namespace GatewayCompiler

open Document Decode

/-- What is counted. -/
inductive RateLimitDescriptor
  /-- A fixed value, under a key of its own. -/
  | genericKey (value : String) (key : Option String)
  /-- The address of the client. -/
  | remoteAddress
  /-- The value of a header, under a key. -/
  | requestHeader (headerName key : String)
  deriving DecidableEq, Repr

/-- The service that counts. -/
structure RateLimitService where
  /-- The cluster of the service. -/
  clusterName : String
  /-- The authority header of the calls. -/
  authority : Option String
  deriving DecidableEq, Repr

/-- The settings of a rate limit. -/
structure RateLimitSettings where
  /-- The domain of the limits. -/
  domain : Option String
  /-- The service that counts. -/
  service : Option RateLimitService
  /-- The time for an answer, in milliseconds. -/
  timeoutMs : Option Nat
  /-- Whether requests are refused when there is no answer. -/
  failureModeDeny : Bool
  /-- What the names of statistics begin with. -/
  statPrefix : Option String
  /-- What is counted. -/
  descriptors : List RateLimitDescriptor
  deriving DecidableEq, Repr

/-! ### Decoding and encoding -/

namespace RateLimitDescriptor

/-- The depth to which a descriptor is read. -/
def maxDepth : Nat := 126

/-- `fieldName? names node` is the name of a field: its text, or the name at its number. -/
def fieldName? (names : List String) : Node → Option (Option String)
  | .text t => some (some t)
  | .int n => if 0 ≤ n then some names[n.toNat]? else none
  | _ => none

/-- `fields names pairs` are the fields of a descriptor by name.  None of the known ones may come
twice. -/
def fields (names : List String) (pairs : List (Node × Node)) : Decode Fields := do
  let named ← pairs.mapM fun p =>
    match fieldName? names p.1 with
    | some name => return (name, p.2)
    | none => failure
  let known := named.filterMap fun p => p.1.bind fun name =>
    if names.contains name then some (name, p.2) else none
  if ¬ (known.map Prod.fst).Nodup then failure
  return ⟨known⟩

/-- A text among values that were read by their own look. -/
def typedText : Node → Decode String
  | .text t => return t
  | _ => failure

/-- A text or null among values that were read by their own look. -/
def typedOptional : Node → Decode (Option String)
  | .null => return none
  | node => return some (← typedText node)

/-- `ofFields type pairs` is the descriptor of a type with the given fields. -/
def ofFields (type : String) (pairs : List (Node × Node)) : Decode RateLimitDescriptor := do
  match type with
  | "generic_key" =>
    let f ← fields ["descriptor_value", "descriptor_key"] pairs
    return .genericKey (← f.required "descriptor_value" typedText)
      (← f.getOr "descriptor_key" none typedOptional)
  | "remote_address" => return .remoteAddress
  | "request_header" =>
    let f ← fields ["header_name", "descriptor_key"] pairs
    return .requestHeader (← f.required "header_name" typedText)
      (← f.required "descriptor_key" typedText)
  | _ => failure

/-- `ofValues type values` is the descriptor of a type with the values of its fields in their
order. -/
def ofValues (type : String) (values : List Node) : Decode RateLimitDescriptor := do
  match type, values with
  | "generic_key", [value] => return .genericKey (← typedText value) none
  | "generic_key", [value, key] => return .genericKey (← typedText value) (← typedOptional key)
  | "remote_address", [] => return .remoteAddress
  | "request_header", [name, key] => return .requestHeader (← typedText name) (← typedText key)
  | _, _ => failure

/-- Read the key of an entry by its own look, and its value too unless it gives the type. -/
def entry (depth : Nat) (pair : Node × Node) : Decode (String ⊕ Node × Node) := do
  match ← typed depth pair.1 with
  | .text "type" => return .inl (← Decode.text pair.2)
  | key => return .inr (key, ← typed depth pair.2)

/-- `RateLimitDescriptor.decode node` is the descriptor written by `node`: a mapping with the type
among its fields, or a list that begins with the type. -/
def decode (node : Node) : Decode RateLimitDescriptor := do
  match ← follow node with
  | .mapping tag pairs =>
    if isLocalTag tag then failure
    let found ← pairs.mapM (entry (maxDepth - 1))
    match found.filterMap Sum.getLeft? with
    | [type] => ofFields type (found.filterMap Sum.getRight?)
    | _ => failure
  | .list tag (type :: values) =>
    if isLocalTag tag then failure
    let type ← Decode.text type
    ofValues type (← values.mapM (typed (maxDepth - 1)))
  | _ => failure

/-- The descriptor as a node. -/
def encode : RateLimitDescriptor → Node
  | .genericKey value key => .record [("type", .text "generic_key"),
      ("descriptor_value", .text value), ("descriptor_key", .ofText? key)]
  | .remoteAddress => .record [("type", .text "remote_address")]
  | .requestHeader name key => .record [("type", .text "request_header"),
      ("header_name", .text name), ("descriptor_key", .text key)]

end RateLimitDescriptor

/-- The service written by a node. -/
def RateLimitService.decode (node : Node) : Decode RateLimitService := do
  let f ← record ["cluster_name", "authority"] false node
  return { clusterName := ← f.required "cluster_name" Decode.text
           authority := ← f.optional "authority" Decode.text }

/-- The service as a node. -/
def RateLimitService.encode (s : RateLimitService) : Node :=
  .record [("cluster_name", .text s.clusterName), ("authority", .ofText? s.authority)]

namespace RateLimitSettings

/-- The settings written by a node. -/
def decode (node : Node) : Decode RateLimitSettings := do
  let f ← record ["domain", "rate_limit_service", "timeout_ms", "failure_mode_deny", "stat_prefix",
    "descriptors"] true node
  return {
    domain := ← f.optional "domain" Decode.text
    service := ← f.optional "rate_limit_service" RateLimitService.decode
    timeoutMs := ← f.optional "timeout_ms" (unsigned Text.limit64)
    failureModeDeny := ← f.getOr "failure_mode_deny" false flag
    statPrefix := ← f.optional "stat_prefix" Decode.text
    descriptors := ← f.getOr "descriptors" [] (list RateLimitDescriptor.decode) }

/-- The settings as a node. -/
def encode (s : RateLimitSettings) : Node :=
  .record [("domain", .ofText? s.domain),
    ("rate_limit_service", .ofOption RateLimitService.encode s.service),
    ("timeout_ms", .ofNat? s.timeoutMs), ("failure_mode_deny", .bool s.failureModeDeny),
    ("stat_prefix", .ofText? s.statPrefix),
    ("descriptors", .ofList RateLimitDescriptor.encode s.descriptors)]

end RateLimitSettings

/-! ### Checks -/

/-- `d.validate` checks that the value of a generic key, and the name and the key of a header, are
not blank. -/
def RateLimitDescriptor.validate : RateLimitDescriptor → Except FilterError Unit
  | .genericKey value _ => if Text.isBlankText value then .error .blankDescriptorValue else .ok ()
  | .remoteAddress => .ok ()
  | .requestHeader name key =>
    if Text.isBlankText name ∨ Text.isBlankText key then .error .blankHeaderDescriptor else .ok ()

/-- `s.validate` checks that the cluster is not blank. -/
def RateLimitService.validate (s : RateLimitService) : Except FilterError Unit :=
  if Text.isBlankText s.clusterName then .error .blankServiceCluster else .ok ()

namespace RateLimitSettings

/-- `s.hasService` says that the settings describe the filter itself, and not only what a route
counts. -/
def hasService (s : RateLimitSettings) : Bool := s.domain.isSome || s.service.isSome

/-- `s.filterParts` are the domain and the service of a filter. -/
def filterParts (s : RateLimitSettings) : Except FilterError (String × RateLimitService) :=
  match s.domain with
  | none => .error .blankDomain
  | some domain =>
    if Text.isBlankText domain then .error .blankDomain
    else match s.service with
      | none => .error .noRateLimitService
      | some service => .ok (domain, service)

/-- `s.validateFilter` checks that the settings describe a filter. -/
def validateFilter (s : RateLimitSettings) : Except FilterError Unit := do
  let (_, service) ← s.filterParts
  service.validate
  s.descriptors.forM RateLimitDescriptor.validate

/-- `s.validateRoute` checks that the settings say what a route counts, and describe a filter if
they begin to. -/
def validateRoute (s : RateLimitSettings) : Except FilterError Unit := do
  if s.descriptors = [] then throw .noDescriptor
  s.descriptors.forM RateLimitDescriptor.validate
  if s.hasService then s.validateFilter

/-- The milliseconds for an answer when none are given. -/
def defaultTimeoutMs : Nat := 20

/-- `s.chainConfig` is the filter in a connection manager, which needs a service. -/
def chainConfig (s : RateLimitSettings) : Except FilterError Proxy.HttpFilterConfig := do
  s.validateFilter
  let (domain, service) ← s.filterParts
  return .rateLimit {
    domain
    timeout := .ofMillis (s.timeoutMs.getD defaultTimeoutMs)
    failureModeDeny := s.failureModeDeny
    statPrefix := s.statPrefix.getD ""
    clusterName := service.clusterName
    authority := service.authority.getD "" }

/-- What a rate limit counts by. -/
def action : RateLimitDescriptor → Proxy.RateLimitAction
  | .genericKey value key => .genericKey value (key.getD "")
  | .remoteAddress => .remoteAddress
  | .requestHeader name key => .requestHeaders name key

/-- `s.routeActions` is the part of a route, if anything is counted there. -/
def routeActions (s : RateLimitSettings) : Option (List Proxy.RateLimitAction) :=
  if s.descriptors = [] then none else some (s.descriptors.map action)

end RateLimitSettings

end GatewayCompiler
