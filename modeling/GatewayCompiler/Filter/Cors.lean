import GatewayCompiler.Filter.Error
import GatewayCompiler.Proxy.Basic
import GatewayCompiler.Text.HttpToken

/-!
# Cross-origin policies

A connection manager holds an empty filter only; the policy itself stands on the hosts, routes and
clusters that it is attached to.

## Main definitions

* `CorsSettings` — a policy, with its decoder and its check.
* `CorsSettings.originMatcher` — what an origin is compared with.
* `CorsSettings.overrideConfig` — the policy on a host, a route or a cluster.
-/

namespace GatewayCompiler

open Document Decode

/-- A cross-origin policy.  An origin is given as it is, as `*` for any origin, or as
`*.example.com` for the subdomains of a domain. -/
structure CorsSettings where
  /-- The origins. -/
  allowOrigin : List String
  /-- The methods. -/
  allowMethods : List String
  /-- The request headers. -/
  allowHeaders : List String
  /-- The response headers. -/
  exposeHeaders : List String
  /-- How long an answer may be kept. -/
  maxAge : Option String
  /-- Whether credentials may be sent. -/
  allowCredentials : Bool
  deriving DecidableEq, Repr

namespace CorsSettings

/-- `CorsSettings.decode node` are the settings written by `node`. -/
def decode (node : Node) : Decode CorsSettings := do
  let f ← record ["allow_origin", "allow_methods", "allow_headers", "expose_headers", "max_age",
    "allow_credentials"] true node
  return {
    allowOrigin := ← f.getOr "allow_origin" [] (list Decode.text)
    allowMethods := ← f.getOr "allow_methods" [] (list Decode.text)
    allowHeaders := ← f.getOr "allow_headers" [] (list Decode.text)
    exposeHeaders := ← f.getOr "expose_headers" [] (list Decode.text)
    maxAge := ← f.optional "max_age" Decode.text
    allowCredentials := ← f.getOr "allow_credentials" false flag }

/-- The settings as a node. -/
def encode (s : CorsSettings) : Node :=
  .record [("allow_origin", .ofTexts s.allowOrigin), ("allow_methods", .ofTexts s.allowMethods),
    ("allow_headers", .ofTexts s.allowHeaders), ("expose_headers", .ofTexts s.exposeHeaders),
    ("max_age", .ofText? s.maxAge), ("allow_credentials", .bool s.allowCredentials)]

/-- `originMatcher origin` is what the origin of a request is compared with. -/
def originMatcher (origin : String) : Except FilterError Proxy.StringMatcher :=
  let origin := Text.trim origin
  match origin.toList with
  | [] => .error .blankOrigin
  | ['*'] => .ok (.startsWith "")
  | '*' :: '.' :: domain => .ok (.endsWith (String.ofList ('.' :: domain)))
  | cs => if cs.contains '*' then .error (.misplacedWildcard origin) else .ok (.exact origin)

/-- `isAnyOrigin origin` says that `origin` stands for any origin. -/
def isAnyOrigin (origin : String) : Bool := Text.trim origin = "*"

/-- `checkMethod method` checks that a method is a star or a token. -/
def checkMethod (method : String) : Except FilterError Unit :=
  let method := Text.trim method
  if method = "*" ∨ Text.isMethod method then .ok () else .error (.badMethod method)

/-- `checkHeaderName name` checks that a header name is a star or a token. -/
def checkHeaderName (name : String) : Except FilterError Unit :=
  let name := Text.trim name
  if name = "*" ∨ Text.isHeaderName name then .ok () else .error (.badHeaderName name)

/-- `checkMaxAge age` checks that an age is a duration. -/
def checkMaxAge (age : String) : Except FilterError Unit :=
  if (Policy.parseDuration age).isSome then .ok () else .error (.badMaxAge age)

/-- `s.validate` checks that there is an origin, all parts are well-formed, and credentials are not
for any origin. -/
def validate (s : CorsSettings) : Except FilterError Unit := do
  if s.allowOrigin = [] then throw .noOrigin
  let _ ← s.allowOrigin.mapM originMatcher
  if s.allowCredentials ∧ s.allowOrigin.any isAnyOrigin then throw .credentialsForAll
  s.allowMethods.forM checkMethod
  (s.allowHeaders ++ s.exposeHeaders).forM checkHeaderName
  match s.maxAge with
  | none => return ()
  | some age => checkMaxAge age

/-- `s.maxAgeSeconds` are the seconds for which an answer may be kept, as a text. -/
def maxAgeSeconds (s : CorsSettings) : String :=
  match s.maxAge.bind Policy.parseDuration with
  | none => ""
  | some nanos => toString (nanos / 1000000000)

/-- `s.overrideConfig` is the policy on a host, a route or a cluster.  The filter in a connection
manager is empty. -/
def overrideConfig (s : CorsSettings) : Except FilterError Proxy.OverrideConfig := do
  s.validate
  return .cors {
    allowOrigin := ← s.allowOrigin.mapM originMatcher
    allowMethods := ",".intercalate s.allowMethods
    allowHeaders := ",".intercalate s.allowHeaders
    exposeHeaders := ",".intercalate s.exposeHeaders
    maxAge := s.maxAgeSeconds
    allowCredentials := if s.allowCredentials then some true else none }

end CorsSettings

end GatewayCompiler
