import GatewayCompiler.Config.Basic
import GatewayCompiler.Filter.Settings

/-!
# Loading a configuration

A configuration comes from a document or from variables.  Either way it is checked before it is
used: first the fields one by one, all bad ones being reported together, and then the default
filters in their order.

## Main definitions

* `ConfigError` — the ways in which a configuration can be wrong, with class and message.
* `Config.badFields` — the fields with bad values.
* `Config.validate` — the whole check.
* `Config.ofDocument`, `Config.ofVariables` — the configuration from its two sources.
-/

namespace GatewayCompiler

/-- The ways in which a variable can be unreadable. -/
inductive VariableError
  /-- A number is expected. -/
  | number (error : Text.IntegerError)
  /-- A truth value is expected. -/
  | flag
  deriving DecidableEq, Repr

/-- `e.message` is the wording of what is wrong with a variable. -/
def VariableError.message : VariableError → String
  | .number e => e.message
  | .flag => "provided string was not `true` or `false`"

/-- The ways in which a configuration can be wrong. -/
inductive ConfigError
  /-- The document cannot be decoded. -/
  | undecodable
  /-- A variable cannot be read. -/
  | variable (what : String) (error : VariableError)
  /-- Fields have bad values. -/
  | badFields (found : List (String × String))
  /-- A default filter has a blank name. -/
  | blankFilterName
  /-- A default filter does not stand in connection managers. -/
  | notHttpFilter (name : String) (kind : FilterKind)
  /-- A default filter has bad settings. -/
  | filter (name : String) (error : FilterError)
  deriving DecidableEq, Repr

namespace ConfigError

/-- The class of an error. -/
def errorClass : ConfigError → ErrorClass
  | .undecodable => .serialization
  | .variable .. => .config
  | .badFields _ | .blankFilterName | .notHttpFilter .. | .filter .. => .validation

/-- The wording of an error without its class. -/
def detail : ConfigError → String
  | .undecodable => "configuration document"
  | .variable what e => s!"Invalid {what}: {e.message}"
  | .badFields found => "\n".intercalate (found.map fun p => p.1 ++ ": " ++ p.2)
  | .blankFilterName => "default HTTP filter name cannot be empty"
  | .notHttpFilter name kind =>
    s!"default HTTP filter '{name}' has type {kind.text} which is not an HTTP filter"
  | .filter name e => s!"default HTTP filter '{name}': {e.message}"

/-- The wording of an error. -/
def message (e : ConfigError) : String := e.errorClass.text ++ ": " ++ e.detail

end ConfigError

namespace Config

/-! ### Checks -/

/-- The wording for a bad port number. -/
def badPort : String := "Port must be between 1 and 65535"

/-- `isPort n` says that `n` is a port number. -/
def isPort (n : Nat) : Bool := 1 ≤ n && n ≤ 65535

/-- `c.fieldTests` are the fields of `c` with the tests they have to pass and the wording for a bad
value, in the order of the fields' names. -/
def fieldTests (c : Config) : List (String × Bool × String) :=
  [("cache.ingress_class", c.cache.ingressClass ≠ some "",
      "Ingress class cannot be empty when set"),
   ("observability.log_level", c.observability.logLevel ≠ "", "Log level cannot be empty"),
   ("translator.access_log_path", c.proxy.accessLogPath ≠ "",
      "Access log path cannot be empty"),
   ("translator.connect_timeout_ms",
      1 ≤ c.proxy.connectTimeoutMs && c.proxy.connectTimeoutMs ≤ 60000,
      "Connect timeout must be between 1 and 60000 milliseconds"),
   ("translator.http_address", c.proxy.httpAddress ≠ "", "HTTP address cannot be empty"),
   ("translator.http_port", isPort c.proxy.httpPort, badPort),
   ("translator.https_address", c.proxy.httpsAddress ≠ "", "HTTPS address cannot be empty"),
   ("translator.https_port", isPort c.proxy.httpsPort, badPort)]

/-- `c.badFields` are the fields of `c` with bad values, each with what is wrong about it. -/
def badFields (c : Config) : List (String × String) :=
  (c.fieldTests.filter fun t => !t.2.1).map fun t => (t.1, t.2.2)

/-- `checkFilter f` checks a default filter: it has a name, stands in connection managers, and has
good settings. -/
def checkFilter (f : Filter) : Except ConfigError Unit :=
  if Text.isBlankText f.name then .error .blankFilterName
  else if ¬ f.kind.isHttpFilter then .error (.notHttpFilter f.name f.kind)
  else match f.settings .virtualHost with
    | .error e => .error (.filter f.name e)
    | .ok _ => .ok ()

/-- `c.validate` is the whole check of the configuration `c`: all bad fields are reported at once,
and then the first bad filter. -/
def validate (c : Config) : Except ConfigError Unit := do
  if c.badFields ≠ [] then throw (.badFields c.badFields)
  c.proxy.defaultHttpFilters.forM checkFilter

/-! ### Documents -/

/-- `ofDocument text` is the configuration of the document `text`, which is decoded and checked. -/
def ofDocument (text : String) : Except ConfigError Config := do
  match (Yaml.read? text).bind (Document.decode? decode) with
  | none => throw .undecodable
  | some c =>
    c.validate
    return c

/-! ### Variables -/

/-- `readNumber what limit value` is the number in the variable `what`, which has to be below
`limit`. -/
def readNumber (what : String) (limit : Nat) (value : String) : Except ConfigError Nat :=
  match Text.natBelow limit (Text.trim value) with
  | .ok n => .ok n
  | .error e => .error (.variable what (.number e))

/-- `readFlag what value` is the truth value in the variable `what`. -/
def readFlag (what : String) (value : String) : Except ConfigError Bool :=
  match Text.trim value with
  | "true" => .ok true
  | "false" => .ok false
  | _ => .error (.variable what .flag)

/-- `readOr unset read value` is the value of a variable, and `unset` where there is none. -/
def readOr {α : Type} (unset : α) (read : String → Except ConfigError α) :
    Option String → Except ConfigError α
  | none => .ok unset
  | some value => read value

/-- `ofVariables valueOf` is the configuration of the variables that `valueOf` knows; unset ones
leave the usual values. -/
def ofVariables (valueOf : String → Option String) : Except ConfigError Config := do
  let var := fun name => valueOf ("SWITCHYARD_" ++ name)
  let usual : Config := {}
  let httpPort ← readOr usual.proxy.httpPort (readNumber "HTTP port" Text.limit32)
    (var "HTTP_PORT")
  let httpsPort ← readOr usual.proxy.httpsPort (readNumber "HTTPS port" Text.limit32)
    (var "HTTPS_PORT")
  let connectTimeoutMs ← readOr usual.proxy.connectTimeoutMs
    (readNumber "connect timeout" Text.limit64) (var "CONNECT_TIMEOUT_MS")
  let jsonLogs ← readOr usual.observability.jsonLogs (readFlag "JSON log flag") (var "LOG_JSON")
  let c : Config := {
    cache := {
      rootNamespaces := match var "ROOT_NAMESPACES" with
        | none => []
        | some list => (Text.commaItems list).filter (· ≠ "")
      ingressClass := var "INGRESS_CLASS" }
    proxy := {
      httpAddress := (var "HTTP_ADDRESS").getD usual.proxy.httpAddress
      httpPort
      httpsAddress := (var "HTTPS_ADDRESS").getD usual.proxy.httpsAddress
      httpsPort
      accessLogPath := (var "ACCESS_LOG_PATH").getD usual.proxy.accessLogPath
      connectTimeoutMs }
    observability := {
      logLevel := (var "LOG_LEVEL").getD usual.observability.logLevel
      jsonLogs } }
  c.validate
  return c

end Config

end GatewayCompiler
