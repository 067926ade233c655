import GatewayCompiler.Resource.Filter
import GatewayCompiler.Text.Quoted

/-!
# What can be wrong with settings

## Main definitions

* `ErrorClass`, `ErrorClass.text` — the classes of errors and the words in front of them.
* `FilterError` — the ways in which the settings of a filter can be wrong.
* `FilterError.errorClass`, `FilterError.detail`, `FilterError.message` — their class and wording.
-/

namespace GatewayCompiler

/-- The classes of errors. -/
inductive ErrorClass
  /-- A setting has a bad value. -/
  | config
  /-- Settings do not go together with their place. -/
  | validation
  /-- A text cannot be decoded. -/
  | serialization
  deriving DecidableEq, Repr

/-- The words in front of the errors of a class. -/
def ErrorClass.text : ErrorClass → String
  | .config => "Configuration error"
  | .validation => "Validation error"
  | .serialization => "Serialization error"

/-- The ways in which the settings of a filter can be wrong. -/
inductive FilterError
  /-- The kind cannot be attached at the scope. -/
  | wrongScope (kind : FilterKind) (scope : FilterScope)
  /-- The settings cannot be decoded. -/
  | undecodable (kind : FilterKind)
  /-- A script is blank. -/
  | blankScript
  /-- A content type is blank. -/
  | blankContentType
  /-- A compression level is out of range. -/
  | levelOutOfRange (level : Nat)
  /-- No origin is listed. -/
  | noOrigin
  /-- An origin is blank. -/
  | blankOrigin
  /-- An origin has a star at another place than in front. -/
  | misplacedWildcard (origin : String)
  /-- Credentials are allowed for any origin. -/
  | credentialsForAll
  /-- A method is no token. -/
  | badMethod (method : String)
  /-- A header name is no token. -/
  | badHeaderName (name : String)
  /-- An age is no duration. -/
  | badMaxAge (age : String)
  /-- The domain of a rate limit is missing or blank. -/
  | blankDomain
  /-- A rate limit names no service. -/
  | noRateLimitService
  /-- The cluster of a rate limit service is blank. -/
  | blankServiceCluster
  /-- A rate limit on a route has no descriptor. -/
  | noDescriptor
  /-- The value of a generic key is blank. -/
  | blankDescriptorValue
  /-- The header name or the key of a header descriptor is blank. -/
  | blankHeaderDescriptor
  /-- The host header that requests are given is blank. -/
  | blankHost
  deriving DecidableEq, Repr

namespace FilterError

/-- The class of an error. -/
def errorClass : FilterError → ErrorClass
  | .wrongScope .. => .validation
  | .undecodable _ => .serialization
  | _ => .config

/-- `e.detail` is the wording of an error without its class. -/
def detail : FilterError → String
  | .wrongScope kind scope => s!"filter type {kind.text} cannot be attached to a {scope.text}"
  | .undecodable kind => s!"{kind.text} filter configuration"
  | .blankScript => "Lua inline_code cannot be empty"
  | .blankContentType => "compression: content_type entries cannot be empty"
  | .levelOutOfRange level => s!"compression: level must be between 1 and 9, got {level}"
  | .noOrigin => "cors: allow_origin must list at least one origin"
  | .blankOrigin => "cors: origins cannot be empty"
  | .misplacedWildcard origin =>
    s!"cors: origin {Text.quoted origin} may only use a leading *. wildcard"
  | .credentialsForAll => "cors: allow_credentials cannot be combined with origin *"
  | .badMethod method => s!"cors: invalid method {Text.quoted method}"
  | .badHeaderName name => s!"cors: invalid header name {Text.quoted name}"
  | .badMaxAge age => s!"cors: invalid max_age {Text.quoted age}"
  | .blankDomain => "RateLimit domain cannot be empty"
  | .noRateLimitService => "RateLimit requires rate_limit_service"
  | .blankServiceCluster => "RateLimit service cluster_name cannot be empty"
  | .noDescriptor => "RateLimit route filter requires at least one descriptor"
  | .blankDescriptorValue => "RateLimit generic_key descriptor_value cannot be empty"
  | .blankHeaderDescriptor =>
    "RateLimit request_header descriptor requires header_name and descriptor_key"
  | .blankHost => "hostRewrite host cannot be empty"

/-- `e.message` is the wording of an error, with its class in front. -/
def message (e : FilterError) : String := e.errorClass.text ++ ": " ++ e.detail

end FilterError

end GatewayCompiler
