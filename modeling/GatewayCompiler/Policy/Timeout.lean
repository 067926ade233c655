import GatewayCompiler.Policy.Duration
import GatewayCompiler.Resource.Routing

/-!
# Timeouts and retries

Routes, annotations of an ingress and filters say how long requests may take and how they are
repeated.  A timeout that is not set and one that never ends are kept apart.

## Main definitions

* `Timeout`, `Timeout.parse` — a limit of time.
* `RetryPolicy`, `TimeoutPolicy` — the policies of a route.
* `RetrySettings`, `TimeoutSettings` — the policies as filters write them.
* `RetryPolicy.ofSpec`, `RetryPolicy.ofAnnotations?`, `RetryPolicy.ofSettings` — the retries of a route,
  an ingress and a filter; those of `TimeoutPolicy` are alike.
-/

namespace GatewayCompiler

/-- A limit of time. -/
inductive Timeout
  /-- The proxy's own limit. -/
  | standard
  /-- No limit. -/
  | infinite
  /-- A number of nanoseconds. -/
  | after (nanos : Nat)
  deriving DecidableEq, Repr, Inhabited

namespace Timeout

/-- `Timeout.parse text` is the limit that a text stands for.  Nothing and zero leave the proxy's
own limit; the word `infinity` and anything that is no duration remove it. -/
def parse (text : String) : Timeout :=
  let text := Text.trim text
  if text = "" then .standard
  else if text = "infinity" then .infinite
  else match Policy.parseDuration text with
    | none => .infinite
    | some nanos => if nanos = 0 then .standard else .after nanos

/-- `Timeout.ofText? text` is the limit of a text that may be missing. -/
def ofText? (text : Option String) : Timeout :=
  match text with
  | none => .standard
  | some t => parse t

/-- `t.isStandard` says that the proxy's own limit is left in place. -/
def isStandard (t : Timeout) : Bool := t = .standard

end Timeout

/-- How failed requests are repeated. -/
structure RetryPolicy where
  /-- Which failures are repeated. -/
  retryOn : String
  /-- The number of retries. -/
  numRetries : Nat
  /-- The time for one attempt. -/
  perTryTimeout : Timeout
  deriving DecidableEq, Repr

/-- How long requests may take. -/
structure TimeoutPolicy where
  /-- The time for a whole response. -/
  response : Timeout
  /-- The time without any data. -/
  idle : Timeout
  deriving DecidableEq, Repr

/-- A retry policy as a filter writes it. -/
structure RetrySettings where
  /-- Which failures are repeated. -/
  retryOn : Option String
  /-- The number of retries. -/
  numRetries : Nat
  /-- The time for one attempt. -/
  perTryTimeout : Option String
  deriving DecidableEq, Repr

/-- A timeout policy as a filter writes it. -/
structure TimeoutSettings where
  /-- The time for a whole response. -/
  response : Option String
  /-- The time without any data. -/
  idle : Option String
  deriving DecidableEq, Repr

namespace RetryPolicy

/-- The failures that are repeated when a policy names none. -/
def defaultRetryOn : String := "5xx"

/-- `RetryPolicy.ofSpec spec` is the policy of a route; there is at least one retry. -/
def ofSpec (spec : RetrySpec) : RetryPolicy where
  retryOn := defaultRetryOn
  numRetries := max spec.count 1
  perTryTimeout := .ofText? spec.perTryTimeout

/-- `RetryPolicy.ofAnnotations? m` is the policy in the annotations of an ingress, which has to name
the failures. -/
def ofAnnotations? (m : Metadata) : Option RetryPolicy := do
  let retryOn := Text.trim (← m.annotation Annotation.retryOn)
  if retryOn = "" then none
  else some {
    retryOn
    numRetries := max (m.number Annotation.numRetries) 1
    perTryTimeout := .ofText? (m.annotation Annotation.perTryTimeout) }

/-- `RetryPolicy.ofSettings settings` is the policy of a filter. -/
def ofSettings (settings : RetrySettings) : RetryPolicy where
  retryOn :=
    match settings.retryOn.map Text.trim with
    | none | some "" => defaultRetryOn
    | some retryOn => retryOn
  numRetries := max settings.numRetries 1
  perTryTimeout := .ofText? settings.perTryTimeout

end RetryPolicy

namespace TimeoutPolicy

/-- `TimeoutPolicy.ofSpec spec` is the policy of a route. -/
def ofSpec (spec : TimeoutSpec) : TimeoutPolicy :=
  ⟨.ofText? spec.response, .ofText? spec.idle⟩

/-- `TimeoutPolicy.ofAnnotations? m` is the policy in the annotations of an ingress, which knows a
limit for the whole response only. -/
def ofAnnotations? (m : Metadata) : Option TimeoutPolicy := do
  let response ← m.annotation Annotation.requestTimeout
  if Text.trim response = "" then none else some ⟨.parse response, .standard⟩

/-- The policy of a filter. -/
def ofSettings (settings : TimeoutSettings) : TimeoutPolicy :=
  ⟨.ofText? settings.response, .ofText? settings.idle⟩

end TimeoutPolicy

/-! ### Decoding and encoding -/

open Document Decode

/-- The retry settings written by a node. -/
def RetrySettings.decode (node : Node) : Decode RetrySettings := do
  let f ← record ["retry_on", "num_retries", "per_try_timeout"] true node
  return {
    retryOn := ← f.optional "retry_on" Decode.text
    numRetries := ← f.getOr "num_retries" 0 (unsigned Text.limit32)
    perTryTimeout := ← f.optional "per_try_timeout" Decode.text }

/-- The retry settings as a node. -/
def RetrySettings.encode (s : RetrySettings) : Node :=
  .record [("retry_on", .ofText? s.retryOn), ("num_retries", .int s.numRetries),
    ("per_try_timeout", .ofText? s.perTryTimeout)]

/-- The timeout settings written by a node. -/
def TimeoutSettings.decode (node : Node) : Decode TimeoutSettings := do
  let f ← record ["response", "idle"] true node
  return { response := ← f.optional "response" Decode.text
           idle := ← f.optional "idle" Decode.text }

/-- The timeout settings as a node. -/
def TimeoutSettings.encode (s : TimeoutSettings) : Node :=
  .record [("response", .ofText? s.response), ("idle", .ofText? s.idle)]

end GatewayCompiler
