import GatewayCompiler.Filter.Error
import GatewayCompiler.Proxy.Basic

/-!
# Scripts

## Main definitions

* `LuaSettings` — a script, with its decoder and its check.
* `LuaSettings.chainConfig`, `LuaSettings.overrideConfig` — the script in a connection manager and
  on a host, a route or a cluster.
-/

namespace GatewayCompiler

open Document Decode

/-- A script. -/
structure LuaSettings where
  /-- The source. -/
  inlineCode : String
  /-- What the names of statistics begin with. -/
  statPrefix : Option String
  deriving DecidableEq, Repr

namespace LuaSettings

/-- `LuaSettings.decode node` are the settings written by `node`. -/
def decode (node : Node) : Decode LuaSettings := do
  let f ← record ["inline_code", "stat_prefix"] true node
  return { inlineCode := ← f.getOr "inline_code" "" Decode.text
           statPrefix := ← f.optional "stat_prefix" Decode.text }

/-- The settings as a node. -/
def encode (s : LuaSettings) : Node :=
  .record [("inline_code", .text s.inlineCode), ("stat_prefix", .ofText? s.statPrefix)]

/-- `s.validate` checks that a script is not blank. -/
def validate (s : LuaSettings) : Except FilterError Unit :=
  if Text.isBlankText s.inlineCode then .error .blankScript else .ok ()

/-- The script in a connection manager. -/
def chainConfig (s : LuaSettings) : Except FilterError Proxy.HttpFilterConfig := do
  s.validate
  return .lua s.inlineCode (s.statPrefix.getD "")

/-- `s.overrideConfig` is the script in place of another one of the connection manager. -/
def overrideConfig (s : LuaSettings) : Except FilterError Proxy.OverrideConfig := do
  s.validate
  return .lua s.inlineCode

end LuaSettings

end GatewayCompiler
